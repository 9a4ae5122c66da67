import CashuService.Credit.Effect
set_option autoImplicit false

namespace CashuService
namespace CreditAccount

variable {a : CreditAccount} {i : String}

@[simp] theorem issuer_eq_ok {s : IssuerState} :
    a.issuer i = .ok s ↔ a.issuers[i]? = some s := okOr_eq_ok

theorem nextRevision_eq_ok {revision : UInt64} (h : a.nextRevision = .ok revision) :
    revision.toNat = a.revision.toNat + 1 :=
  UInt64.checkedAdd_eq_some.mp (okOr_eq_ok.mp h)

theorem issuerMut_ends {method : EStateM CreditError IssuerState Unit} {mv : Movement}
    (h : ∀ s, Ends method s (fun _ s' => s' = s) fun _ s' => Moves s mv s') :
    Ends (issuerMut i method) a (fun _ a' => a' = a) fun _ a' =>
      ∃ issuers, Posted a.issuers [(i, mv)] issuers ∧ a' = { a with issuers } := by
  unfold Ends issuerMut
  cases hs : a.issuers[i]? with
  | none => rfl
  | some s =>
    have hm := h s
    unfold Ends at hm
    cases hx : method s with
    | ok u s' =>
      simp only [hx] at hm ⊢
      exact ⟨_, .single hs hm, rfl⟩
    | error e s' =>
      simp only [hx] at hm ⊢
      subst hm
      rw [BTreeMap.modify_eq_self hs]

theorem issuerMut_commit {s : IssuerState} {f : IssuerState → IssuerState}
    {err : CreditError → CreditAccount → Prop} (present : a.issuers[i]? = some s) :
    Ends (issuerMut i (modify f)) a err fun _ a' =>
      a' = { a with issuers := a.issuers.modify i fun _ => f s } := by
  unfold Ends issuerMut
  simp only [present]
  rfl

theorem closedLoopMut_ends {method : EStateM CreditError ClosedLoopLedger Unit} {s : IssuerState}
    {mv : Movement} {why : CreditError → Prop} {step : ClosedLoopLedger → Prop}
    (h : Ends method s.closedLoop (fun e l => l = s.closedLoop ∧ why e) fun _ l => step l)
    (hm : ∀ l, step l → Moves s mv { s with closedLoop := l }) :
    Ends (IssuerState.closedLoopMut method) s (fun _ s' => s' = s) fun _ s' => Moves s mv s' := by
  refine .zoom (h.imp ?_ fun _ l hl => hm l hl)
  rintro _ l ⟨rfl, _⟩
  rfl

theorem withdrawableMut_ends {method : EStateM CreditError WithdrawableReserveLedger Unit}
    {s : IssuerState} {mv : Movement} {why : CreditError → Prop}
    {step : WithdrawableReserveLedger → Prop}
    (h : Ends method s.withdrawable (fun e l => l = s.withdrawable ∧ why e) fun _ l => step l)
    (hm : ∀ l, step l → Moves s mv { s with withdrawable := l }) :
    Ends (IssuerState.withdrawableMut method) s (fun _ s' => s' = s)
      fun _ s' => Moves s mv s' := by
  refine .zoom (h.imp ?_ fun _ l hl => hm l hl)
  rintro _ l ⟨rfl, _⟩
  rfl

/-- The branches of `recordBackingDeposit`: a class that can be backed is credited. -/
theorem postDeposit_ends (a : CreditAccount) (d : BackingDeposit) :
    Ends (match d.valueClass with
      | .closedLoopDeposit =>
        issuerMut d.issuer (IssuerState.closedLoopMut (ClosedLoopLedger.deposit d.amountSat))
      | .reserveBackedWithdrawable =>
        issuerMut d.issuer
          (IssuerState.withdrawableMut (WithdrawableReserveLedger.deposit d.amountSat))
      | .peerCredit => throw .unsupportedBackingClass) a (fun _ a' => a' = a) fun _ a' =>
        ∃ issuers, Posted a.issuers (backing d.issuer d.amountSat d.valueClass) issuers ∧
          a' = { a with issuers } := by
  cases d.valueClass with
  | peerCredit => exact .throw rfl
  | closedLoopDeposit =>
    exact issuerMut_ends fun s => closedLoopMut_ends
      (ClosedLoopLedger.deposit_ends s.closedLoop d.amountSat) fun _ => .depositClosedLoop
  | reserveBackedWithdrawable =>
    exact issuerMut_ends fun s => withdrawableMut_ends
      (WithdrawableReserveLedger.deposit_ends s.withdrawable d.amountSat)
      fun _ => .depositReserve

theorem recordBackingDeposit_ends (a : CreditAccount) (d : BackingDeposit) (auth : String) :
    Ends (recordBackingDeposit d auth) a (fun _ a' => a' = a) fun r a' =>
      a' = a ∧ Replayed a (.recordBackingDeposit d auth) (.receipt r) ∨
        Applied a (.recordBackingDeposit d auth) (.receipt r) a' := by
  refine .get_bind (.attempt_bind (fun _ _ => rfl) fun _ hvalid => .get_bind ?_)
  cases hstored : a.backingDeposits[(d.issuer, d.depositId)]? with
  | some existing =>
    refine .ite (fun he => ?_) fun _ => .throw rfl
    subst he
    exact .pure (.inl ⟨rfl, .deposit hvalid hstored⟩)
  | none =>
    refine .get_bind (.attempt_bind (fun _ _ => rfl) fun revision hrev => ?_)
    have hnext := nextRevision_eq_ok hrev
    refine (postDeposit_ends a d).seq ?_
    rintro _ a' ⟨issuers, hposted, rfl⟩
    exact .modify_bind (.modify_bind (.pure (.inr (.deposit hvalid hstored hnext hposted))))

/-- The cap check and the allocation that a receipt and a backed settlement share. -/
theorem moves_allocateClosedLoop {s : IssuerState} {amount resulting : UInt64}
    {l : ClosedLoopLedger} (hsum : s.closedLoop.claimableSat.checkedAdd amount = some resulting)
    (hcap : ¬s.policy.maxClosedLoopSat < resulting)
    (hl : onClone (ClosedLoopLedger.allocate amount) s.closedLoop = .ok l) :
    Moves s (.allocateClosedLoop amount) { s with closedLoop := l } := by
  have hstep := (ClosedLoopLedger.allocate_ends s.closedLoop amount).of_onClone hl
  have hresult := UInt64.checkedAdd_eq_some.mp hsum
  have hle := UInt64.le_iff_toNat_le.mp (UInt64.not_lt.mp hcap)
  have hclaim := hstep.claimable
  exact .allocateClosedLoop hstep (by omega)

theorem ensureWithdrawableCapacity_eq_ok {s : IssuerState} {l : WithdrawableReserveLedger}
    {amount : UInt64} (present : a.issuers[i]? = some s)
    (h : a.ensureWithdrawableCapacity i l amount = .ok ()) :
    l.redeemableSat.toNat + l.pendingExternalSat.toNat + amount.toNat ≤
      s.policy.maxWithdrawableSat.toNat := by
  simp only [ensureWithdrawableCapacity, Except.bind_eq_ok, okOr_eq_ok, issuer_eq_ok,
    rejectIf_eq_ok, Option.bind_eq_some_iff] at h
  obtain ⟨exposure, ⟨part, hpart, hexposure⟩, s', hs', hcap⟩ := h
  rw [present, Option.some.injEq] at hs'
  subst hs'
  have h1 := UInt64.checkedAdd_eq_some.mp hpart
  have h2 := UInt64.checkedAdd_eq_some.mp hexposure
  have h3 := UInt64.le_iff_toNat_le.mp (UInt64.not_lt.mp hcap)
  omega

theorem moves_allocateReserve {s : IssuerState} {amount : UInt64}
    {l : WithdrawableReserveLedger} (present : a.issuers[i]? = some s)
    (hcap : a.ensureWithdrawableCapacity i s.withdrawable amount = .ok ())
    (hl : onClone (WithdrawableReserveLedger.allocate amount) s.withdrawable = .ok l) :
    Moves s (.allocateReserve amount) { s with withdrawable := l } := by
  have hstep := (WithdrawableReserveLedger.allocate_ends s.withdrawable amount).of_onClone hl
  have hroom := ensureWithdrawableCapacity_eq_ok present hcap
  have hredeem := hstep.redeemable
  have hpending := hstep.pending
  exact .allocateReserve hstep (by rw [hpending]; omega)

theorem applyPeerCredit_ends (a : CreditAccount) (c : ServiceReceiptClaim)
    (mode : AcceptanceMode) :
    Ends (applyPeerCredit c mode) a (fun _ a' => a' = a) fun _ a' =>
      ∃ issuers total,
        Posted a.issuers [(c.issuer, .credit c.amountSat (mode = .offlineDeferred))] issuers ∧
        total.toNat = a.totalPeerCreditSat.toNat + c.amountSat.toNat ∧
        total.toNat ≤ a.maxTotalPeerCreditSat.toNat ∧
        a' = { a with issuers, totalPeerCreditSat := total } := by
  refine .get_bind (.attempt_bind (fun _ _ => rfl) fun p hp => ?_)
  obtain ⟨ledger, total⟩ := p
  simp only [Except.bind_eq_ok, issuer_eq_ok, rejectIf_eq_ok, okOr_eq_ok, Except.pure_eq_ok,
    Prod.mk.injEq] at hp
  obtain ⟨s, hs, _, hcredit, s', hs', _, hcap, _, hoffline, _, htotal, _, hmax, rfl, rfl⟩ := hp
  rw [hs, Option.some.injEq] at hs'
  subst hs'
  refine (issuerMut_commit hs).seq ?_
  rintro _ _ rfl
  refine .modify ⟨_, _, .single hs (.credit ?_ ?_ fun _ => ?_), ?_, ?_, rfl⟩
  · exact (PeerCreditLedger.credit_ends _ _ _).of_onClone hcredit
  · exact UInt64.le_iff_toNat_le.mp (UInt64.not_lt.mp hcap)
  · exact UInt64.le_iff_toNat_le.mp (UInt64.not_lt.mp hoffline)
  · exact UInt64.checkedAdd_eq_some.mp htotal
  · exact UInt64.le_iff_toNat_le.mp (UInt64.not_lt.mp hmax)

theorem applyClosedLoop_ends (a : CreditAccount) (c : ServiceReceiptClaim) :
    Ends (applyClosedLoop c) a (fun _ a' => a' = a) fun _ a' =>
      ∃ issuers, Posted a.issuers [(c.issuer, .allocateClosedLoop c.amountSat)] issuers ∧
        a' = { a with issuers } := by
  refine .get_bind (.attempt_bind (fun _ _ => rfl) fun ledger hl => ?_)
  simp only [Except.bind_eq_ok, issuer_eq_ok, rejectIf_eq_ok, okOr_eq_ok] at hl
  obtain ⟨s, hs, resulting, hsum, s', hs', _, hcap, halloc⟩ := hl
  rw [hs, Option.some.injEq] at hs'
  subst hs'
  refine (issuerMut_commit hs).imp (fun _ _ h => h) ?_
  rintro _ _ rfl
  exact ⟨_, .single hs (moves_allocateClosedLoop hsum hcap halloc), rfl⟩

theorem applyWithdrawable_ends (a : CreditAccount) (c : ServiceReceiptClaim) :
    Ends (applyWithdrawable c) a (fun _ a' => a' = a) fun _ a' =>
      ∃ issuers, Posted a.issuers [(c.issuer, .allocateReserve c.amountSat)] issuers ∧
        a' = { a with issuers } := by
  refine .get_bind (.attempt_bind (fun _ _ => rfl) fun ledger hl => ?_)
  simp only [Except.bind_eq_ok, issuer_eq_ok] at hl
  obtain ⟨s, hs, _, hcap, halloc⟩ := hl
  refine (issuerMut_commit hs).imp (fun _ _ h => h) ?_
  rintro _ _ rfl
  exact ⟨_, .single hs (moves_allocateReserve hs hcap halloc), rfl⟩

theorem requireOnline_eq_ok {mode : AcceptanceMode} (h : requireOnline mode = .ok ()) :
    mode = .online := by
  cases mode with
  | online => rfl
  | offlineDeferred => simp [requireOnline] at h

/-- The branches of `applyReceipt`: value that is backed changes hands online only, and peer credit
counts towards the total. -/
theorem postReceipt_ends (a : CreditAccount) (c : ServiceReceiptClaim) (mode : AcceptanceMode) :
    Ends (match c.valueClass with
      | .peerCredit => applyPeerCredit c mode
      | .closedLoopDeposit => do attempt (requireOnline mode); applyClosedLoop c
      | .reserveBackedWithdrawable => do
        attempt (requireOnline mode); applyWithdrawable c) a (fun _ a' => a' = a) fun _ a' =>
      ∃ issuers total,
        (c.valueClass ≠ .peerCredit → mode = .online) ∧
        Posted a.issuers (receiptEntry c mode) issuers ∧
        total.toNat = a.totalPeerCreditSat.toNat +
          (if c.valueClass = .peerCredit then c.amountSat.toNat else 0) ∧
        (c.valueClass = .peerCredit → total.toNat ≤ a.maxTotalPeerCreditSat.toNat) ∧
        a' = { a with issuers, totalPeerCreditSat := total } := by
  cases hclass : c.valueClass with
  | peerCredit =>
    refine (applyPeerCredit_ends a c mode).imp (fun _ _ h => h) ?_
    rintro _ _ ⟨issuers, total, hposted, hsum, hcap, rfl⟩
    refine ⟨issuers, total, fun h => absurd rfl h, ?_, by simpa using hsum, fun _ => hcap, rfl⟩
    simpa [receiptEntry, hclass] using hposted
  | closedLoopDeposit =>
    refine .attempt_bind (fun _ _ => rfl) fun _ honline => ?_
    refine (applyClosedLoop_ends a c).imp (fun _ _ h => h) ?_
    rintro _ _ ⟨issuers, hposted, rfl⟩
    refine ⟨issuers, a.totalPeerCreditSat, fun _ => requireOnline_eq_ok honline, ?_, by simp,
      by simp, rfl⟩
    simpa [receiptEntry, allocation, hclass] using hposted
  | reserveBackedWithdrawable =>
    refine .attempt_bind (fun _ _ => rfl) fun _ honline => ?_
    refine (applyWithdrawable_ends a c).imp (fun _ _ h => h) ?_
    rintro _ _ ⟨issuers, hposted, rfl⟩
    refine ⟨issuers, a.totalPeerCreditSat, fun _ => requireOnline_eq_ok honline, ?_, by simp,
      by simp, rfl⟩
    simpa [receiptEntry, allocation, hclass] using hposted

theorem applyReceipt_ends (a : CreditAccount) (c : ServiceReceiptClaim) (auth : String)
    (mode : AcceptanceMode) (now : UInt64) :
    Ends (applyReceipt c auth mode now) a (fun _ a' => a' = a) fun r a' =>
      a' = a ∧ Replayed a (.applyReceipt c auth mode now) (.receipt r) ∨
        Applied a (.applyReceipt c auth mode now) (.receipt r) a' := by
  refine .get_bind (.attempt_bind (fun _ _ => rfl) fun _ hidentity => .get_bind ?_)
  cases hstored : a.appliedReceipts[c.receiptId]? with
  | some existing =>
    refine .ite (fun he => ?_) fun _ => .throw rfl
    subst he
    exact .pure (.inl ⟨rfl, .receipt hidentity hstored⟩)
  | none =>
    refine .get_bind (.attempt_bind (fun _ _ => rfl) fun _ hvalid => .get_bind
      (.attempt_bind (fun _ _ => rfl) fun revision hrev => ?_))
    have hnext := nextRevision_eq_ok hrev
    refine (postReceipt_ends a c mode).seq ?_
    rintro _ _ ⟨issuers, total, honline, hposted, hsum, hcap, rfl⟩
    refine .modify_bind (.modify_bind (.modify_bind (.pure (.inr ?_))))
    have happlied : Applied a (.applyReceipt c auth mode now) (.receipt .applied) _ :=
      .receipt hstored hvalid hnext honline hposted hsum hcap
    by_cases hclass : c.valueClass = .peerCredit
    · simpa only [hclass, if_true, receiptEvents] using happlied
    · simpa only [hclass, if_false, receiptEvents, List.append_nil] using happlied

theorem novatePeerCredit_ends (a : CreditAccount) (n : CreditNovation) (auth : String)
    (now : UInt64) :
    Ends (novatePeerCredit n auth now) a (fun _ a' => a' = a) fun _ a' =>
      a' = a ∧ Replayed a (.novatePeerCredit n auth now) .done ∨
        Applied a (.novatePeerCredit n auth now) .done a' := by
  refine .get_bind (.attempt_bind (fun _ _ => rfl) fun _ hidentity => .get_bind ?_)
  cases hstored : a.novations[n.novationId]? with
  | some existing =>
    refine .ite (fun he => ?_) fun _ => .throw rfl
    subst he
    exact .pure (.inl ⟨rfl, .novation hidentity hstored⟩)
  | none =>
    refine .get_bind (.attempt_bind (fun _ _ => rfl) fun _ hvalid => .get_bind
      (.attempt_bind (fun _ _ => rfl) fun revision hrev => .get_bind
        (.attempt_bind (fun _ _ => rfl) fun p hp => ?_)))
    have hnext := nextRevision_eq_ok hrev
    obtain ⟨source, target⟩ := p
    simp only [Except.bind_eq_ok, issuer_eq_ok, rejectIf_eq_ok, Except.pure_eq_ok,
      Prod.mk.injEq] at hp
    obtain ⟨s, hs, t, ht, source, hdebit, target, hcredit, t', ht', _, hcap, rfl, rfl⟩ := hp
    rw [ht, Option.some.injEq] at ht'
    subst ht'
    have hne : n.fromIssuer ≠ n.toIssuer := by
      simp only [validateNovationIdentity, Except.bind_eq_ok, rejectIf_eq_ok] at hidentity
      obtain ⟨_, _, _, _, _, hne, _⟩ := hidentity
      exact hne
    refine (issuerMut_commit hs).seq ?_
    rintro _ _ rfl
    -- The second write finds its issuer, because the first one changed another entry.
    have ht₁ := (BTreeMap.getElem?_modify_ne a.issuers
      (fun _ => { s with peerCredit := source }) hne).trans ht
    refine (issuerMut_commit ht₁).seq ?_
    rintro _ _ rfl
    refine .modify_bind (.modify_bind (.modify (.inr (.novation hstored hvalid hnext ?_))))
    refine .cons hs (.debit ((PeerCreditLedger.debit_ends _ _).of_onClone hdebit))
      (.single ht₁ (.credit ((PeerCreditLedger.credit_ends _ _ _).of_onClone hcredit) ?_ ?_))
    · exact UInt64.le_iff_toNat_le.mp (UInt64.not_lt.mp hcap)
    · intro h; contradiction

/-- A step of the backing issuer leaves every peer ledger as it was, also when the backing issuer
is the peer issuer itself. -/
theorem peerCredit_of_modify {m : BTreeMap String IssuerState} {j : String} {s t t' : IssuerState}
    (hs : m[j]? = some s) (ht : m[i]? = some t) (hpeer : t'.peerCredit = t.peerCredit) :
    ∃ s₁, (m.modify i fun _ => t')[j]? = some s₁ ∧ s₁.peerCredit = s.peerCredit := by
  by_cases he : i = j
  · rw [he, hs, Option.some.injEq] at ht
    subst ht
    exact ⟨t', by rw [he, BTreeMap.getElem?_modify_self, hs]; rfl, hpeer⟩
  · exact ⟨s, (BTreeMap.getElem?_modify_ne _ _ he).trans hs, rfl⟩

theorem settlePeerCreditWithBacking_ends (a : CreditAccount) (b : BackedCreditSettlement)
    (auth : String) (now : UInt64) :
    Ends (settlePeerCreditWithBacking b auth now) a (fun _ a' => a' = a) fun r a' =>
      a' = a ∧ Replayed a (.settlePeerCreditWithBacking b auth now) (.receipt r) ∨
        Applied a (.settlePeerCreditWithBacking b auth now) (.receipt r) a' := by
  refine .get_bind (.attempt_bind (fun _ _ => rfl) fun _ hidentity => .get_bind ?_)
  cases hstored : a.backedSettlements[b.settlementId]? with
  | some existing =>
    refine .ite (fun he => ?_) fun _ => .throw rfl
    subst he
    exact .pure (.inl ⟨rfl, .backed hidentity hstored⟩)
  | none =>
    refine .get_bind (.attempt_bind (fun _ _ => rfl) fun _ hvalid => .get_bind
      (.attempt_bind (fun _ _ => rfl) fun revision hrev => .get_bind
        (.attempt_bind (fun _ _ => rfl) fun p hp => ?_)))
    have hnext := nextRevision_eq_ok hrev
    obtain ⟨source, remaining⟩ := p
    simp only [Except.bind_eq_ok, issuer_eq_ok, okOr_eq_ok, Except.pure_eq_ok,
      Prod.mk.injEq] at hp
    obtain ⟨s, hs, source, hdebit, remaining, hremaining, rfl, rfl⟩ := hp
    have hsum := UInt64.checkedSub_eq_some.mp hremaining
    have hdebited := (PeerCreditLedger.debit_ends _ _).of_onClone hdebit
    refine .seq (q := fun _ a' => ∃ mv t t',
      allocation b.backingIssuer b.amountSat b.valueClass = [(b.backingIssuer, mv)] ∧
      a.issuers[b.backingIssuer]? = some t ∧ Moves t mv t' ∧ t'.peerCredit = t.peerCredit ∧
      a' = { a with issuers := a.issuers.modify b.backingIssuer fun _ => t' }) ?_ ?_
    · cases hclass : b.valueClass with
      | peerCredit => exact .throw rfl
      | closedLoopDeposit =>
        refine .attempt_bind (fun _ _ => rfl) fun backing hbacking => ?_
        simp only [Except.bind_eq_ok, issuer_eq_ok, rejectIf_eq_ok, okOr_eq_ok] at hbacking
        obtain ⟨t, ht, resulting, hresult, t', ht', _, hcap, halloc⟩ := hbacking
        rw [ht, Option.some.injEq] at ht'
        subst ht'
        refine (issuerMut_commit ht).imp (fun _ _ h => h) ?_
        rintro _ _ rfl
        exact ⟨_, t, _, rfl, ht, moves_allocateClosedLoop hresult hcap halloc, rfl, rfl⟩
      | reserveBackedWithdrawable =>
        refine .attempt_bind (fun _ _ => rfl) fun backing hbacking => ?_
        simp only [Except.bind_eq_ok, issuer_eq_ok] at hbacking
        obtain ⟨t, ht, _, hcap, halloc⟩ := hbacking
        refine (issuerMut_commit ht).imp (fun _ _ h => h) ?_
        rintro _ _ rfl
        exact ⟨_, t, _, rfl, ht, moves_allocateReserve ht hcap halloc, rfl, rfl⟩
    · rintro _ _ ⟨mv, t, t', hentry, ht, hmoves, hpeer, rfl⟩
      obtain ⟨s₁, hs₁, hpeer₁⟩ := peerCredit_of_modify hs ht hpeer
      refine (issuerMut_commit hs₁).seq ?_
      rintro _ _ rfl
      refine .modify_bind (.modify_bind (.modify_bind (.modify_bind (.pure (.inr
        (.backed hstored hvalid hnext ?_ hsum))))))
      rw [hentry]
      refine .cons ht hmoves (.single hs₁ (.debit ?_))
      rwa [hpeer₁]

theorem consumeClosedLoop_ends (a : CreditAccount) (c : ClosedLoopConsumption)
    (auth : String) :
    Ends (consumeClosedLoop c auth) a (fun _ a' => a' = a) fun r a' =>
      a' = a ∧ Replayed a (.consumeClosedLoop c auth) (.receipt r) ∨
        Applied a (.consumeClosedLoop c auth) (.receipt r) a' := by
  refine .get_bind (.attempt_bind (fun _ _ => rfl) fun _ hvalid => .get_bind ?_)
  cases hstored : a.closedLoopConsumptions[c.consumptionId]? with
  | some existing =>
    refine .ite (fun he => ?_) fun _ => .throw rfl
    subst he
    exact .pure (.inl ⟨rfl, .consumption hvalid hstored⟩)
  | none =>
    refine .get_bind (.attempt_bind (fun _ _ => rfl) fun revision hrev => ?_)
    have hpost := issuerMut_ends (a := a) (i := c.issuer) fun s => closedLoopMut_ends
      (ClosedLoopLedger.consume_ends s.closedLoop c.amountSat) fun _ => .consume
    refine hpost.seq ?_
    rintro _ _ ⟨issuers, hposted, rfl⟩
    exact .modify_bind (.modify_bind (.pure (.inr
      (.consumption hvalid hstored (nextRevision_eq_ok hrev) hposted))))

theorem authorizeExternalSettlement_ends (a : CreditAccount) (r : ExternalSettlementRequest)
    (auth : String) (now : UInt64) :
    Ends (authorizeExternalSettlement r auth now) a (fun _ a' => a' = a) fun z a' =>
      a' = a ∧ Replayed a (.authorizeExternalSettlement r auth now) (.authorization z) ∨
        Applied a (.authorizeExternalSettlement r auth now) (.authorization z) a' := by
  refine .get_bind (.attempt_bind (fun _ _ => rfl) fun _ hidentity => .get_bind ?_)
  cases hstored : a.settlements[r.settlementId]? with
  | some existing =>
    refine .ite (fun _ => .throw rfl) fun hrequest => ?_
    obtain ⟨request, authorization, state⟩ := existing
    obtain rfl : request = r := not_not.mp hrequest
    cases state with
    | pending => exact .pure (.inl ⟨rfl, .authorization hidentity hstored⟩)
    | completed fee => exact .throw rfl
    | cancelled => exact .throw rfl
  | none =>
    refine .get_bind (.attempt_bind (fun _ _ => rfl) fun _ hvalid => .get_bind
      (.attempt_bind (fun _ _ => rfl) fun revision hrev =>
        .checkedAdd_bind (fun _ => rfl) fun reserved hreserved => ?_))
    have hpost := issuerMut_ends (a := a) (i := r.issuer) fun s => withdrawableMut_ends
      (WithdrawableReserveLedger.authorize_ends s.withdrawable reserved) fun _ => .authorize
    refine hpost.seq ?_
    rintro _ _ ⟨issuers, hposted, rfl⟩
    exact .modify_bind (.modify_bind (.pure (.inr
      (.authorization hstored hvalid (nextRevision_eq_ok hrev) hreserved hposted))))

/-- The completion of `spent` followed by the return of what is left of the reservation. -/
theorem released_of_complete {l l₁ l₂ : WithdrawableReserveLedger} {spent unused : UInt64}
    (hcomplete : onClone (WithdrawableReserveLedger.complete spent) l = .ok l₁)
    (hcancel : (if 0 < unused then
      onClone (WithdrawableReserveLedger.cancel unused) l₁ else pure l₁) = .ok l₂) :
    l.Released spent.toNat unused.toNat l₂ := by
  have hfirst := (WithdrawableReserveLedger.complete_ends l spent).of_onClone hcomplete
  by_cases hu : 0 < unused
  · rw [if_pos hu] at hcancel
    have hsecond := (WithdrawableReserveLedger.cancel_ends l₁ unused).of_onClone hcancel
    obtain ⟨t₁, v₁, r₁, p₁, s₁⟩ := hfirst
    obtain ⟨t₂, v₂, r₂, p₂, s₂⟩ := hsecond
    exact ⟨t₂.trans t₁, v₂.trans v₁, by omega, by omega, by omega⟩
  · rw [if_neg hu, Except.pure_eq_ok] at hcancel
    subst hcancel
    have hzero : unused.toNat = 0 := by
      have hle := UInt64.le_iff_toNat_le.mp (UInt64.not_lt.mp hu)
      simpa using hle
    rwa [hzero]

theorem completeExternalSettlement_ends (a : CreditAccount) (id : String) (fee : UInt64) :
    Ends (completeExternalSettlement id fee) a (fun _ a' => a' = a) fun _ a' =>
      a' = a ∧ Replayed a (.completeExternalSettlement id fee) .done ∨
        Applied a (.completeExternalSettlement id fee) .done a' := by
  refine .get_bind (.attempt_bind (fun _ _ => rfl) fun x hx => ?_)
  have hstored := okOr_eq_ok.mp hx
  cases hstate : x.state with
  | completed fee' =>
    refine .ite (fun he => ?_) fun _ => .throw rfl
    subst he
    exact .pure (.inl ⟨rfl, .completion hstored hstate⟩)
  | cancelled => exact .throw rfl
  | pending =>
    refine .attempt_bind (fun _ _ => rfl) fun _ hfee => .get_bind
      (.attempt_bind (fun _ _ => rfl) fun revision hrev =>
        .checkedAdd_bind (fun _ => rfl) fun spent hspent => .get_bind
          (.attempt_bind (fun _ _ => rfl) fun ledger hledger => ?_))
    have hfits := UInt64.not_lt.mp (rejectIf_eq_ok.mp hfee)
    have hunused := UInt64.toNat_sub_of_le _ _ hfits
    simp only [Except.bind_eq_ok, issuer_eq_ok] at hledger
    obtain ⟨s, hs, l₁, hcomplete, hcancel⟩ := hledger
    have hreleased := released_of_complete hcomplete hcancel
    rw [hspent, hunused] at hreleased
    refine (issuerMut_commit hs).seq ?_
    rintro _ _ rfl
    exact .modify_bind (.modify (.inr (.completion hstored hstate
      (UInt64.le_iff_toNat_le.mp hfits) (nextRevision_eq_ok hrev)
      (.single hs (.release hreleased)))))

theorem cancelExternalSettlement_ends (a : CreditAccount) (id : String) :
    Ends (cancelExternalSettlement id) a (fun _ a' => a' = a) fun _ a' =>
      a' = a ∧ Replayed a (.cancelExternalSettlement id) .done ∨
        Applied a (.cancelExternalSettlement id) .done a' := by
  refine .get_bind (.attempt_bind (fun _ _ => rfl) fun x hx => ?_)
  have hstored := okOr_eq_ok.mp hx
  cases hstate : x.state with
  | cancelled => exact .pure (.inl ⟨rfl, .cancellation hstored hstate⟩)
  | completed fee => exact .throw rfl
  | pending =>
    refine .get_bind (.attempt_bind (fun _ _ => rfl) fun revision hrev => ?_)
    have hpost := issuerMut_ends (a := a) (i := x.request.issuer) fun s => withdrawableMut_ends
      (WithdrawableReserveLedger.cancel_ends s.withdrawable x.authorization.reservedSat)
      fun _ => .release
    refine hpost.seq ?_
    rintro _ _ ⟨issuers, hposted, rfl⟩
    exact .modify_bind (.modify (.inr
      (.cancellation hstored hstate (nextRevision_eq_ok hrev) hposted)))

end CreditAccount

/-- What any call can do: fail and leave no trace, recognize a replay and leave no trace, or
apply its effect. -/
theorem Operation.run_ends (op : Operation) (a : CreditAccount) :
    Ends op.run a (fun _ a' => a' = a) fun r a' =>
      a' = a ∧ Replayed a op r ∨ Applied a op r a' := by
  cases op with
  | recordBackingDeposit d auth =>
    exact (CreditAccount.recordBackingDeposit_ends a d auth).seq fun _ _ h => .pure h
  | applyReceipt c auth mode now =>
    exact (CreditAccount.applyReceipt_ends a c auth mode now).seq fun _ _ h => .pure h
  | novatePeerCredit n auth now =>
    exact (CreditAccount.novatePeerCredit_ends a n auth now).seq fun _ _ h => .pure h
  | settlePeerCreditWithBacking b auth now =>
    exact (CreditAccount.settlePeerCreditWithBacking_ends a b auth now).seq fun _ _ h => .pure h
  | consumeClosedLoop c auth =>
    exact (CreditAccount.consumeClosedLoop_ends a c auth).seq fun _ _ h => .pure h
  | authorizeExternalSettlement r auth now =>
    exact (CreditAccount.authorizeExternalSettlement_ends a r auth now).seq fun _ _ h => .pure h
  | completeExternalSettlement id fee =>
    exact (CreditAccount.completeExternalSettlement_ends a id fee).seq fun _ _ h => .pure h
  | cancelExternalSettlement id =>
    exact (CreditAccount.cancelExternalSettlement_ends a id).seq fun _ _ h => .pure h

theorem Operation.exec_cases (op : Operation) (a : CreditAccount) :
    op.exec a = a ∨ ∃ r, op.run a = .ok r (op.exec a) ∧ Applied a op r (op.exec a) := by
  have h := op.run_ends a
  cases hr : op.run a with
  | error e a' =>
    have ha := h.of_error hr
    exact .inl (by simp only [exec, hr, ha])
  | ok r a' =>
    have hexec : op.exec a = a' := by simp only [exec, hr]
    rcases h.of_ok hr with ⟨ha, _⟩ | happlied
    · exact .inl (hexec.trans ha)
    · exact .inr ⟨r, by rw [hexec], by rwa [hexec]⟩

end CashuService

import CashuService.Credit.Preservation
import CashuService.Credit.Snapshot
set_option autoImplicit false

namespace CashuService

/-! What the snapshot validator accepts. The totals it recomputes are a run of additions, one
for each entry of a record, and the log it replays is the log of the invariant. -/

def Adds (s : ExpectedIssuerState) (l : Column × UInt64) (s' : ExpectedIssuerState) : Prop :=
  ∃ target : UInt64, target.toNat = (l.1.get s).toNat + l.2.toNat ∧ s' = l.1.set target s

@[simp] theorem Column.get_set (c d : Column) (v : UInt64) (s : ExpectedIssuerState) :
    c.get (d.set v s) = if c = d then v else c.get s := by
  cases c <;> cases d <;> rfl

theorem add_eq_ok {m m' : ExpectedTotals} {i : String} {c : Column} {amount : UInt64}
    {reason : String} :
    add m i c amount reason = .ok m' ↔ KeyedRun Adds m [(i, c, amount)] m' := by
  simp only [add, expectedState, Except.bind_eq_ok, okOr_eq_ok, Except.pure_eq_ok]
  constructor
  · intro h
    obtain ⟨totals, htotals, target, htarget, rfl⟩ := h
    rw [BTreeMap.modify_eq_const _ htotals]
    exact .single htotals ⟨target, UInt64.checkedAdd_eq_some.mp htarget, rfl⟩
  · intro h
    cases h with
    | cons present taken tail =>
      obtain ⟨target, htarget, rfl⟩ := taken
      cases tail
      exact ⟨_, present, target, UInt64.checkedAdd_eq_some.mpr htarget,
        BTreeMap.modify_eq_const _ present⟩

theorem expectedState_eq_ok {m : ExpectedTotals} {i : String} :
    (∃ s, expectedState m i = .ok s) ↔ i ∈ m := by
  simp only [expectedState, okOr_eq_ok]
  exact BTreeMap.mem_iff_exists.symm

def ServiceReceiptClaim.entries (r : ServiceReceiptClaim) : List (String × Column × UInt64) :=
  match r.valueClass with
  | .peerCredit => [(r.issuer, .peerCreditsSat, r.amountSat)]
  | .closedLoopDeposit => [(r.issuer, .closedAllocationsSat, r.amountSat)]
  | .reserveBackedWithdrawable => [(r.issuer, .withdrawableAllocationsSat, r.amountSat)]

def CreditNovation.entries (n : CreditNovation) : List (String × Column × UInt64) :=
  [(n.fromIssuer, .peerDebitsSat, n.amountSat), (n.toIssuer, .peerCreditsSat, n.amountSat)]

def BackingDeposit.entries (d : BackingDeposit) : List (String × Column × UInt64) :=
  match d.valueClass with
  | .peerCredit => []
  | .closedLoopDeposit => [(d.issuer, .closedDepositsSat, d.amountSat)]
  | .reserveBackedWithdrawable => [(d.issuer, .withdrawableDepositsSat, d.amountSat)]

def BackedCreditSettlement.entries (b : BackedCreditSettlement) :
    List (String × Column × UInt64) :=
  (b.fromIssuer, .peerDebitsSat, b.amountSat) ::
    match b.valueClass with
    | .peerCredit => []
    | .closedLoopDeposit => [(b.backingIssuer, .closedAllocationsSat, b.amountSat)]
    | .reserveBackedWithdrawable => [(b.backingIssuer, .withdrawableAllocationsSat, b.amountSat)]

def ClosedLoopConsumption.entries (c : ClosedLoopConsumption) : List (String × Column × UInt64) :=
  [(c.issuer, .closedConsumptionsSat, c.amountSat)]

def SettlementRecord.entries (x : SettlementRecord) : List (String × Column × UInt64) :=
  match x.state with
  | .pending => [(x.request.issuer, .pendingExternalSat, x.authorization.reservedSat)]
  | .completed fee => [(x.request.issuer, .settledExternalSat, x.request.amountSat + fee)]
  | .cancelled => []

theorem validateIssuer_eq_ok (i : String) (s : IssuerState) :
    validateIssuer i (.ofState s) = .ok () ↔ s.Sound i := by
  simp only [validateIssuer, Except.bind_eq_ok]
  simp only [rejectIf_eq_ok, okOr_eq_ok, exists_const, Option.bind_eq_some_iff]
  simp only [IssuerSnapshotV1.ofState, not_or, ne_eq, not_not, Bool.not_eq_true, UInt64.not_lt,
    UInt64.le_iff_toNat_le]
  constructor
  · intro h
    obtain ⟨⟨hnamed, hissuer, hpolicy, hoffline, hpeer, hofflineCap, hclosed⟩, exposure, hexposure,
      hwithdrawable, closed, ⟨c₁, hc₁, hc⟩, hclosedTotal, w, ⟨w₂, ⟨w₁, hw₁, hw₂⟩, hw⟩, hwTotal⟩ := h
    have he := UInt64.checkedAdd_eq_some.mp hexposure
    have hc₁ := UInt64.checkedAdd_eq_some.mp hc₁
    have hc := UInt64.checkedAdd_eq_some.mp hc
    have hw₁ := UInt64.checkedAdd_eq_some.mp hw₁
    have hw₂ := UInt64.checkedAdd_eq_some.mp hw₂
    have hw := UInt64.checkedAdd_eq_some.mp hw
    subst hclosedTotal hwTotal
    exact ⟨hnamed, hissuer, hpolicy, hoffline, hpeer, hofflineCap, hclosed, by omega, by omega,
      by omega⟩
  · intro h
    obtain ⟨hnamed, hissuer, hpolicy, hoffline, hpeer, hofflineCap, hclosed, hwithdrawable,
      hclosedTotal, hwTotal⟩ := h
    have hlt := s.closedLoop.totalDepositedSat.toNat_lt
    have hltw := s.withdrawable.totalDepositedSat.toNat_lt
    have hadd : ∀ x y : UInt64, x.toNat + y.toNat < 2 ^ 64 →
        x.checkedAdd y = some (x + y) ∧ (x + y).toNat = x.toNat + y.toNat := by
      intro x y hxy
      have hsome := UInt64.checkedAdd_of_fits hxy
      exact ⟨hsome, UInt64.checkedAdd_eq_some.mp hsome⟩
    obtain ⟨he, hen⟩ := hadd s.withdrawable.redeemableSat s.withdrawable.pendingExternalSat
      (by omega)
    obtain ⟨hc₁, hc₁n⟩ := hadd s.closedLoop.availableBackingSat s.closedLoop.claimableSat
      (by omega)
    obtain ⟨hc, hcn⟩ := hadd (s.closedLoop.availableBackingSat + s.closedLoop.claimableSat)
      s.closedLoop.consumedSat (by omega)
    obtain ⟨hw₁, hw₁n⟩ := hadd s.withdrawable.availableSat s.withdrawable.redeemableSat (by omega)
    obtain ⟨hw₂, hw₂n⟩ := hadd (s.withdrawable.availableSat + s.withdrawable.redeemableSat)
      s.withdrawable.pendingExternalSat (by omega)
    obtain ⟨hw, hwn⟩ := hadd (s.withdrawable.availableSat + s.withdrawable.redeemableSat +
      s.withdrawable.pendingExternalSat) s.withdrawable.settledExternalSat (by omega)
    refine ⟨⟨hnamed, hissuer, hpolicy, hoffline, hpeer, hofflineCap, hclosed⟩, _, he, by omega, _,
      ⟨_, hc₁, hc⟩, ?_, _, ⟨_, ⟨_, hw₁, hw₂⟩, hw⟩, ?_⟩
    · apply UInt64.toNat_inj.mp
      omega
    · apply UInt64.toNat_inj.mp
      omega

namespace CreditAccountSnapshotV1

section

variable {a : CreditAccount} {m m' : ExpectedTotals}
  (hm : ∀ i, i ∈ m ↔ i ∈ a.relationship.issuers)

include hm

theorem validateReceipt_eq_ok (k : String) (r : ServiceReceiptClaim) :
    a.snapshot.validateReceipt m k r = .ok m' ↔
      r.Kept a.relationship k ∧ KeyedRun Adds m r.entries m' := by
  have hadd : (match r.valueClass with
      | .peerCredit => add m r.issuer .peerCreditsSat r.amountSat "peer receipt total"
      | .closedLoopDeposit =>
        add m r.issuer .closedAllocationsSat r.amountSat "closed-loop receipt total"
      | .reserveBackedWithdrawable =>
        add m r.issuer .withdrawableAllocationsSat r.amountSat "withdrawable receipt total") =
        .ok m' ↔ KeyedRun Adds m r.entries m' := by
    unfold ServiceReceiptClaim.entries
    cases r.valueClass <;> exact add_eq_ok
  have hissuer : KeyedRun Adds m r.entries m' → r.issuer ∈ a.relationship.issuers := by
    intro h
    unfold ServiceReceiptClaim.entries at h
    cases hc : r.valueClass <;> rw [hc] at h <;>
      exact (hm _).mp (h.mem_of_label List.mem_cons_self)
  simp only [validateReceipt, Except.bind_eq_ok, rejectIf_eq_ok, exists_const]
  rw [← hadd]
  simp only [not_or, ne_eq, not_not, Bool.not_eq_true, UInt64.not_le]
  constructor
  · intro h
    obtain ⟨⟨hkey, hnamed, hcp, hservice, hresource, hunits, hamount, hlife⟩, hrun⟩ := h
    exact ⟨⟨hkey, hnamed, hcp, hservice, hresource, hunits, hamount, hlife,
      hissuer (hadd.mp hrun)⟩, hrun⟩
  · intro h
    obtain ⟨hk, hrun⟩ := h
    exact ⟨⟨hk.keyed, hk.named, hk.counterparty, hk.service, hk.resource, hk.units, hk.amount,
      hk.lifetime⟩, hrun⟩

theorem validateNovation_eq_ok (k : String) (n : CreditNovation) :
    a.snapshot.validateNovation m k n = .ok m' ↔
      n.Kept a.relationship k ∧ KeyedRun Adds m n.entries m' := by
  have hrun : (∃ m₁, KeyedRun Adds m [(n.fromIssuer, .peerDebitsSat, n.amountSat)] m₁ ∧
      KeyedRun Adds m₁ [(n.toIssuer, .peerCreditsSat, n.amountSat)] m') ↔
      KeyedRun Adds m n.entries m' := KeyedRun.append_iff.symm
  simp only [validateNovation, Except.bind_eq_ok, rejectIf_eq_ok, exists_const, add_eq_ok, hrun]
  simp only [not_or, ne_eq, not_not, Bool.not_eq_true]
  constructor
  · intro h
    obtain ⟨⟨hkey, hnamed, hcp, hne, hamount⟩, hentries⟩ := h
    have hfrom := (hm _).mp (hentries.mem_of_label List.mem_cons_self)
    have hto := (hm _).mp (hentries.mem_of_label (List.mem_cons_of_mem _ List.mem_cons_self))
    exact ⟨⟨hkey, hnamed, hcp, hne, hamount, hfrom, hto⟩, hentries⟩
  · intro h
    obtain ⟨hk, hentries⟩ := h
    exact ⟨⟨hk.keyed, hk.named, hk.counterparty, hk.distinct, hk.amount⟩, hentries⟩

theorem validateBackedSettlement_eq_ok (k : String) (b : BackedCreditSettlement) :
    a.snapshot.validateBackedSettlement m k b = .ok m' ↔
      b.Kept a.relationship k ∧ KeyedRun Adds m b.entries m' := by
  simp only [validateBackedSettlement, Except.bind_eq_ok, rejectIf_eq_ok, exists_const, add_eq_ok]
  simp only [not_or, ne_eq, not_not, Bool.not_eq_true]
  constructor
  · intro h
    obtain ⟨⟨hkey, hnamed, hcp, hamount⟩, m₁, hdebit, s, hs, hbacking⟩ := h
    have hfrom := (hm _).mp (hdebit.mem_of_label List.mem_cons_self)
    have hmem := (hm _).mp ((hdebit.mem_iff _).mp (expectedState_eq_ok.mp ⟨s, hs⟩))
    cases hc : b.valueClass with
    | peerCredit => simp [hc] at hbacking
    | closedLoopDeposit | reserveBackedWithdrawable =>
      simp only [hc, add_eq_ok] at hbacking
      refine ⟨⟨hkey, hnamed, hcp, hamount, by simp [hc], hfrom, hmem⟩, ?_⟩
      rw [BackedCreditSettlement.entries, hc]
      exact hdebit.append hbacking
  · intro h
    obtain ⟨hk, hrun⟩ := h
    rw [BackedCreditSettlement.entries, ← List.singleton_append, KeyedRun.append_iff] at hrun
    obtain ⟨m₁, hdebit, hbacking⟩ := hrun
    have hmem : b.backingIssuer ∈ m₁ := (hdebit.mem_iff _).mpr ((hm _).mpr hk.backingIssuer)
    obtain ⟨s, hs⟩ := expectedState_eq_ok.mpr hmem
    refine ⟨⟨hk.keyed, hk.named, hk.counterparty, hk.amount⟩, m₁, hdebit, s, hs, ?_⟩
    have hbacked := hk.backed
    cases hc : b.valueClass with
    | peerCredit => exact absurd hc hbacked
    | closedLoopDeposit | reserveBackedWithdrawable =>
      rw [hc] at hbacking
      simpa only [add_eq_ok] using hbacking

theorem validateConsumption_eq_ok (k : String) (c : ClosedLoopConsumption) :
    a.snapshot.validateConsumption m k c = .ok m' ↔
      c.Kept a.relationship k ∧ KeyedRun Adds m c.entries m' := by
  simp only [validateConsumption, Except.bind_eq_ok, rejectIf_eq_ok, exists_const, add_eq_ok]
  simp only [not_or, ne_eq, not_not, Bool.not_eq_true]
  constructor
  · intro h
    obtain ⟨⟨hkey, hnamed, hcp, hresource, hamount⟩, hrun⟩ := h
    have hissuer := (hm _).mp (hrun.mem_of_label List.mem_cons_self)
    exact ⟨⟨hkey, hnamed, hcp, hresource, hamount, hissuer⟩, hrun⟩
  · intro h
    obtain ⟨hk, hrun⟩ := h
    exact ⟨⟨hk.keyed, hk.named, hk.counterparty, hk.resource, hk.amount⟩, hrun⟩

theorem validateExternalSettlement_eq_ok (k : String) (x : SettlementRecord) :
    a.snapshot.validateExternalSettlement m k (.ofRecord x) = .ok m' ↔
      x.Kept a.relationship k ∧ KeyedRun Adds m x.entries m' := by
  obtain ⟨q, z, state⟩ := x
  unfold validateExternalSettlement SettlementRecordSnapshotV1.ofRecord
  simp only [Except.bind_eq_ok]
  simp only [rejectIf_eq_ok, okOr_eq_ok, exists_const]
  simp only [not_or, ne_eq, not_not, Bool.not_eq_true, UInt64.not_le]
  constructor
  · intro h
    obtain ⟨reserved, hreserved, ⟨hkey, hnamed, hcp, hdest, hamount, hauth, hlife⟩, s, hs,
      hstate⟩ := h
    have hsum := UInt64.checkedAdd_eq_some.mp hreserved
    have hissuer := (hm _).mp (expectedState_eq_ok.mp ⟨s, hs⟩)
    have hz : z.reservedSat = reserved := by rw [hauth]
    subst hz
    cases state with
    | pending =>
      exact ⟨⟨hkey, hnamed, hcp, hdest, hamount, hsum, hauth, hlife, hissuer, by simp⟩,
        add_eq_ok.mp hstate⟩
    | completed fee =>
      simp only [SettlementStateSnapshotV1.ofState, Except.bind_eq_ok, rejectIf_eq_ok, okOr_eq_ok,
        exists_const, add_eq_ok] at hstate
      obtain ⟨hfee, spent, hspent, hrun⟩ := hstate
      have hle := UInt64.le_iff_toNat_le.mp (UInt64.not_lt.mp hfee)
      have hadd := UInt64.eq_add_of_checkedAdd hspent
      subst hadd
      refine ⟨⟨hkey, hnamed, hcp, hdest, hamount, hsum, hauth, hlife, hissuer, ?_⟩, hrun⟩
      intro fee' hfee'
      cases hfee'
      exact hle
    | cancelled =>
      simp only [SettlementStateSnapshotV1.ofState, Except.pure_eq_ok] at hstate
      subst hstate
      exact ⟨⟨hkey, hnamed, hcp, hdest, hamount, hsum, hauth, hlife, hissuer, by simp⟩, .nil⟩
  · intro h
    obtain ⟨hk, hrun⟩ := h
    obtain ⟨s, hs⟩ := expectedState_eq_ok.mpr ((hm _).mpr hk.issuer)
    refine ⟨z.reservedSat, UInt64.checkedAdd_eq_some.mpr hk.reserve, ⟨hk.keyed, hk.named,
      hk.counterparty, hk.destination, hk.amount, hk.authorization, hk.lifetime⟩, s, hs, ?_⟩
    have hreserve := hk.reserve
    cases state with
    | pending => exact add_eq_ok.mpr hrun
    | completed fee =>
      have hfee := hk.fee fee rfl
      have hfits : q.amountSat.toNat + fee.toNat < 2 ^ 64 := by
        have hlt := z.reservedSat.toNat_lt
        simp only at hreserve hfee
        omega
      simp only [SettlementStateSnapshotV1.ofState, Except.bind_eq_ok, rejectIf_eq_ok, okOr_eq_ok,
        exists_const, add_eq_ok]
      exact ⟨UInt64.not_lt.mpr (UInt64.le_iff_toNat_le.mpr hfee), _,
        UInt64.checkedAdd_of_fits hfits, hrun⟩
    | cancelled =>
      cases hrun
      rfl

end

theorem foldlM_expectIssuer {l : List (String × IssuerSnapshotV1)} {m m' : ExpectedTotals} :
    l.foldlM (fun totals e => expectIssuer totals e.1 e.2) m = .ok m' ↔
      (∀ e ∈ l, validateIssuer e.1 e.2 = .ok ()) ∧
        l.foldl (fun m e => m.insert e.1 .zero) m = m' := by
  induction l generalizing m with
  | nil => simp
  | cons e l ih =>
    rw [List.foldlM_cons, Except.bind_eq_ok, List.forall_mem_cons, List.foldl_cons]
    simp only [expectIssuer, Except.bind_eq_ok, Except.pure_eq_ok]
    constructor
    · intro h
      obtain ⟨_, ⟨_, he, rfl⟩, hrest⟩ := h
      obtain ⟨hall, hfold⟩ := ih.mp hrest
      exact ⟨⟨he, hall⟩, hfold⟩
    · intro h
      obtain ⟨⟨he, hall⟩, hfold⟩ := h
      exact ⟨_, ⟨(), he, rfl⟩, ih.mpr ⟨hall, hfold⟩⟩

variable {a : CreditAccount} {m m' : ExpectedTotals}

/-- The loop over the issuers checks each of them and starts their totals at zero. -/
theorem expectIssuers_eq_ok :
    a.snapshot.issuers.toList.foldlM (fun totals e => expectIssuer totals e.1 e.2) ∅ = .ok m ↔
      a.issuers.Each IssuerState.Sound ∧ m = a.issuers.map fun _ _ => .zero := by
  have hlist : a.snapshot.issuers.toList = a.issuers.toList.map fun e => (e.1, .ofState e.2) :=
    Std.ExtTreeMap.toList_map
  have hzero : a.snapshot.issuers.toList.foldl
      (fun m e => m.insert e.1 ExpectedIssuerState.zero) (∅ : ExpectedTotals) =
      a.issuers.map fun _ _ => .zero := by
    apply BTreeMap.ext_entries
    rw [BTreeMap.toList_foldl_insert (fun e : String × IssuerSnapshotV1 => e.1)
      (fun _ => ExpectedIssuerState.zero) Std.ExtTreeMap.ordered_keys_toList, hlist, List.map_map,
      Std.ExtTreeMap.toList_map]
    rfl
  have hsound : (∀ e ∈ a.snapshot.issuers.toList, validateIssuer e.1 e.2 = .ok ()) ↔
      a.issuers.Each IssuerState.Sound := by
    rw [BTreeMap.each_iff_entries, hlist]
    simp only [List.forall_mem_map, validateIssuer_eq_ok]
  rw [foldlM_expectIssuer, hzero, hsound, eq_comm (a := m)]

variable (hm : ∀ i, i ∈ m ↔ i ∈ a.relationship.issuers)

include hm

theorem validateReceipts_eq_ok :
    a.snapshot.validateReceipts m = .ok m' ↔
      a.appliedReceipts.Each (ServiceReceiptClaim.Kept a.relationship) ∧
        KeyedRun Adds m (a.appliedReceipts.toList.flatMap fun e => e.2.entries) m' := by
  rw [BTreeMap.each_iff_entries]
  exact KeyedRun.foldlM_iff (fun _ e _ hn => validateReceipt_eq_ok hn e.1 e.2) _ hm

theorem validateNovations_eq_ok :
    a.snapshot.validateNovations m = .ok m' ↔
      a.novations.Each (CreditNovation.Kept a.relationship) ∧
        KeyedRun Adds m (a.novations.toList.flatMap fun e => e.2.entries) m' := by
  rw [BTreeMap.each_iff_entries]
  exact KeyedRun.foldlM_iff (fun _ e _ hn => validateNovation_eq_ok hn e.1 e.2) _ hm

theorem validateBackedSettlements_eq_ok :
    a.snapshot.validateBackedSettlements m = .ok m' ↔
      a.backedSettlements.Each (BackedCreditSettlement.Kept a.relationship) ∧
        KeyedRun Adds m (a.backedSettlements.toList.flatMap fun e => e.2.entries) m' := by
  rw [BTreeMap.each_iff_entries]
  exact KeyedRun.foldlM_iff (fun _ e _ hn => validateBackedSettlement_eq_ok hn e.1 e.2) _ hm

theorem validateConsumptions_eq_ok :
    a.snapshot.validateConsumptions m = .ok m' ↔
      a.closedLoopConsumptions.Each (ClosedLoopConsumption.Kept a.relationship) ∧
        KeyedRun Adds m (a.closedLoopConsumptions.toList.flatMap fun e => e.2.entries) m' := by
  rw [BTreeMap.each_iff_entries]
  exact KeyedRun.foldlM_iff (fun _ e _ hn => validateConsumption_eq_ok hn e.1 e.2) _ hm

theorem validateExternalSettlements_eq_ok :
    a.snapshot.validateExternalSettlements m = .ok m' ↔
      a.settlements.Each (SettlementRecord.Kept a.relationship) ∧
        KeyedRun Adds m (a.settlements.toList.flatMap fun e => e.2.entries) m' := by
  have hlist : a.snapshot.settlements.toList = a.settlements.toList.map fun e =>
      (e.1, .ofRecord e.2) := Std.ExtTreeMap.toList_map
  rw [BTreeMap.each_iff_entries, validateExternalSettlements, hlist, List.foldlM_map]
  exact KeyedRun.foldlM_iff (fun _ e _ hn => validateExternalSettlement_eq_ok hn e.1 e.2) _ hm

omit hm

theorem validateDeposit_eq_ok {p : Relationship} {d : BackingDeposit}
    {previous : Option (String × String)} {state : Option (String × String) × ExpectedTotals}
    (hm : ∀ i, i ∈ m ↔ i ∈ p.issuers) :
    validateDeposit (previous, m) d = .ok state ↔
      (∀ k, previous = some k → compare k (d.issuer, d.depositId) = .lt) ∧
        d.Kept p (d.issuer, d.depositId) ∧
        ∃ n, KeyedRun Adds m d.entries n ∧ state = (some (d.issuer, d.depositId), n) := by
  have hprevious : ¬(previous.any
      (fun k => compare k (d.issuer, d.depositId) ≠ .lt) = true) ↔
      ∀ k, previous = some k → compare k (d.issuer, d.depositId) = .lt := by
    cases previous <;> simp
  simp only [validateDeposit, Except.bind_eq_ok]
  simp only [rejectIf_eq_ok, exists_const, not_or, hprevious, Bool.not_eq_true]
  constructor
  · intro h
    obtain ⟨⟨horder, hnamed, hamount⟩, s, hs, hrest⟩ := h
    have hissuer := (hm _).mp (expectedState_eq_ok.mp ⟨s, hs⟩)
    cases hc : d.valueClass with
    | peerCredit => simp [hc, bind, Except.bind] at hrest
    | closedLoopDeposit | reserveBackedWithdrawable =>
      simp only [hc, Except.bind_eq_ok, Except.pure_eq_ok, add_eq_ok] at hrest
      obtain ⟨n, hn, hstate⟩ := hrest
      refine ⟨horder, ⟨rfl, hnamed, hamount, by simp [hc], hissuer⟩, n, ?_, hstate.symm⟩
      rw [BackingDeposit.entries, hc]
      exact hn
  · intro h
    obtain ⟨horder, hk, n, hrun, hstate⟩ := h
    obtain ⟨s, hs⟩ := expectedState_eq_ok.mpr ((hm _).mpr hk.issuer)
    refine ⟨⟨horder, hk.named, hk.amount⟩, s, hs, ?_⟩
    have hbacked := hk.backed
    rw [BackingDeposit.entries] at hrun
    cases hc : d.valueClass with
    | peerCredit => exact absurd hc hbacked
    | closedLoopDeposit | reserveBackedWithdrawable =>
      rw [hc] at hrun
      simp only [Except.bind_eq_ok, Except.pure_eq_ok, add_eq_ok]
      exact ⟨n, hrun, hstate.symm⟩

theorem foldlM_validateDeposit {p : Relationship} (m' : ExpectedTotals) (l : List BackingDeposit)
    (previous : Option (String × String)) (hm : ∀ i, i ∈ m ↔ i ∈ p.issuers) :
    (∃ last, l.foldlM validateDeposit (previous, m) = .ok (last, m')) ↔
      (∀ k, previous = some k → ∀ d ∈ l, compare k (d.issuer, d.depositId) = .lt) ∧
        l.Pairwise (fun d e => compare (d.issuer, d.depositId) (e.issuer, e.depositId) = .lt) ∧
        (∀ d ∈ l, d.Kept p (d.issuer, d.depositId)) ∧
        KeyedRun Adds m (l.flatMap BackingDeposit.entries) m' := by
  induction l generalizing previous m with
  | nil =>
    simp only [List.foldlM_nil, Except.pure_eq_ok, Prod.mk.injEq, List.flatMap_nil]
    constructor
    · intro h
      obtain ⟨last, _, rfl⟩ := h
      exact ⟨by simp, .nil, by simp, .nil⟩
    · intro h
      obtain ⟨_, _, _, hrun⟩ := h
      cases hrun
      exact ⟨previous, rfl, rfl⟩
  | cons d l ih =>
    simp only [List.foldlM_cons, Except.bind_eq_ok, validateDeposit_eq_ok hm, List.pairwise_cons,
      List.forall_mem_cons, List.flatMap_cons, KeyedRun.append_iff]
    constructor
    · intro h
      obtain ⟨last, state, ⟨horder, hk, n, hrun, rfl⟩, hrest⟩ := h
      have hn : ∀ i, i ∈ n ↔ i ∈ p.issuers := fun i => (hrun.mem_iff i).trans (hm i)
      obtain ⟨hnext, hpairs, hall, htail⟩ := (ih _ hn).mp ⟨last, hrest⟩
      have hlater := hnext _ rfl
      refine ⟨?_, ⟨hlater, hpairs⟩, ⟨hk, hall⟩, n, hrun, htail⟩
      intro k hkey
      exact ⟨horder k hkey, fun e he => Std.TransCmp.lt_trans (horder k hkey) (hlater e he)⟩
    · intro h
      obtain ⟨horder, ⟨hlater, hpairs⟩, ⟨hk, hall⟩, n, hrun, htail⟩ := h
      have hn : ∀ i, i ∈ n ↔ i ∈ p.issuers := fun i => (hrun.mem_iff i).trans (hm i)
      have hnext : ∀ k, some (d.issuer, d.depositId) = some k →
          ∀ e ∈ l, compare k (e.issuer, e.depositId) = .lt := by
        intro k hkey
        cases hkey
        exact hlater
      obtain ⟨last, hrest⟩ := (ih _ hn).mpr ⟨hnext, hpairs, hall, htail⟩
      exact ⟨last, _, ⟨fun k hkey => (horder k hkey).1, hk, n, hrun, rfl⟩, hrest⟩

theorem validateDeposits_eq_ok (hm : ∀ i, i ∈ m ↔ i ∈ a.relationship.issuers)
    (hkeyed : a.backingDeposits.Each fun k d => k = (d.issuer, d.depositId)) :
    a.snapshot.validateDeposits m = .ok m' ↔
      a.backingDeposits.Each (BackingDeposit.Kept a.relationship) ∧
        KeyedRun Adds m (a.backingDeposits.toList.flatMap fun e => e.2.entries) m' := by
  have hlist : a.snapshot.backingDeposits = a.backingDeposits.toList.map (·.2) := rfl
  have hkey : ∀ e ∈ a.backingDeposits.toList, e.1 = (e.2.issuer, e.2.depositId) :=
    BTreeMap.each_iff_entries.mp hkeyed
  have hkept : (∀ d ∈ a.backingDeposits.toList.map (·.2),
      d.Kept a.relationship (d.issuer, d.depositId)) ↔
      a.backingDeposits.Each (BackingDeposit.Kept a.relationship) := by
    rw [BTreeMap.each_iff_entries, List.forall_mem_map]
    constructor
    · intro h e he
      rw [hkey e he]
      exact h e he
    · intro h e he
      rw [← hkey e he]
      exact h e he
  have hfold := foldlM_validateDeposit m' (a.backingDeposits.toList.map (·.2)) none hm
  rw [hkept, List.flatMap_map] at hfold
  simp only [validateDeposits, Except.bind_eq_ok, Except.pure_eq_ok, hlist]
  constructor
  · intro h
    obtain ⟨⟨last, n⟩, hrun, rfl⟩ := h
    exact (hfold.mp ⟨last, hrun⟩).2.2
  · intro h
    obtain ⟨last, hrun⟩ := hfold.mpr ⟨by simp, BTreeMap.values_ordered hkeyed, h⟩
    exact ⟨_, hrun, rfl⟩

end CreditAccountSnapshotV1
end CashuService

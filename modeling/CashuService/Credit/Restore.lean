import CashuService.Credit.EventReplay
import CashuService.Credit.Validation
set_option autoImplicit false

namespace CashuService
open CreditAccount KeyedRun CreditAccountSnapshotV1

theorem Adds.level (c : Column) (s : ExpectedIssuerState) (l : Column × UInt64)
    (s' : ExpectedIssuerState) (h : Adds s l s') :
    (c.get s').toNat + 0 = (c.get s).toNat + if l.1 = c then l.2.toNat else 0 := by
  obtain ⟨target, htarget, rfl⟩ := h
  by_cases hc : c = l.1
  · subst hc
    simp [htarget]
  · simp [hc, Ne.symm hc]

/-- What is entered in one column of one issuer. -/
def entered (i : String) (c : Column) (es : List (String × Column × UInt64)) : Nat :=
  amountAt i (fun l : Column × UInt64 => if l.1 = c then l.2.toNat else 0) es

@[simp] theorem entered_nil (i : String) (c : Column) : entered i c [] = 0 := rfl

@[simp] theorem entered_cons (i j : String) (c d : Column) (amount : UInt64)
    (es : List (String × Column × UInt64)) :
    entered i c ((j, d, amount) :: es) =
      (if j = i then if d = c then amount.toNat else 0 else 0) + entered i c es := rfl

@[simp] theorem entered_append (i : String) (c : Column)
    (es es' : List (String × Column × UInt64)) :
    entered i c (es ++ es') = entered i c es + entered i c es' :=
  amountAt_append i _ es es'

theorem amountAt_zero {κ μ : Type} [DecidableEq κ] (k : κ) (es : List (κ × μ)) :
    amountAt k (fun _ => 0) es = 0 := by
  simp [amountAt]

theorem adds_total {m m' : ExpectedTotals} {es : List (String × Column × UInt64)}
    (h : KeyedRun Adds m es m') {i : String} {s : ExpectedIssuerState} (hs : m[i]? = some s) :
    ∃ s', m'[i]? = some s' ∧ ∀ c : Column,
      (c.get s').toNat = (c.get s).toNat + entered i c es := by
  have hrun := fun c => h.level_at (fun s => (Column.get c s).toNat)
    (fun s l s' => Adds.level c s l s') hs
  obtain ⟨s', hs', _⟩ := hrun .peerCreditsSat
  refine ⟨s', hs', fun c => ?_⟩
  obtain ⟨t, ht, hlevel⟩ := hrun c
  rw [hs', Option.some.injEq] at ht
  subst ht
  rwa [amountAt_zero, Nat.add_zero] at hlevel

/-- The entries can be made when every issuer is known and every column stays in range. -/
theorem adds_exists {m : ExpectedTotals} {es : List (String × Column × UInt64)}
    (hmem : ∀ e ∈ es, e.1 ∈ m)
    (hfits : m.Each fun i s => ∀ c : Column, (c.get s).toNat + entered i c es < 2 ^ 64) :
    ∃ m', KeyedRun Adds m es m' := by
  induction es generalizing m with
  | nil => exact ⟨m, .nil⟩
  | cons e es ih =>
    obtain ⟨i, c, amount⟩ := e
    obtain ⟨hi, hrest⟩ := List.forall_mem_cons.mp hmem
    obtain ⟨s, hs⟩ := BTreeMap.mem_iff_exists.mp hi
    have hroom := hfits i s hs c
    simp only [entered_cons, if_true] at hroom
    have hsum : (c.get s).toNat + amount.toNat < 2 ^ 64 := by omega
    have htarget := UInt64.checkedAdd_eq_some.mp (UInt64.checkedAdd_of_fits hsum)
    have hadds : Adds s (c, amount) (c.set (c.get s + amount) s) := ⟨_, htarget, rfl⟩
    have hnext : BTreeMap.Each (m.modify i fun _ => c.set (c.get s + amount) s) fun j s =>
        ∀ c : Column, (c.get s).toNat + entered j c es < 2 ^ 64 := by
      intro j t ht d
      by_cases hj : i = j
      · subst hj
        rw [BTreeMap.getElem?_modify_self, hs, Option.map_some, Option.some.injEq] at ht
        subst ht
        have hlevel := hadds.level d
        simp only [Nat.add_zero] at hlevel
        have hold := hfits i s hs d
        simp only [entered_cons, if_true] at hold
        omega
      · rw [BTreeMap.getElem?_modify_ne m _ hj] at ht
        have hold := hfits j t ht d
        simpa only [entered_cons, hj, if_false, Nat.zero_add] using hold
    obtain ⟨m', hrun⟩ := ih (fun e he => Std.ExtTreeMap.mem_modify.mpr (hrest e he)) hnext
    exact ⟨m', .cons hs hadds hrun⟩

theorem entered_flatMap {κ α : Type} [Ord κ] [Std.TransOrd κ] (i : String) (c : Column)
    (m : BTreeMap κ α) (f : α → List (String × Column × UInt64)) :
    entered i c (m.toList.flatMap fun e => f e.2) =
      BTreeMap.sumOf (fun v => entered i c (f v)) m := by
  unfold BTreeMap.sumOf
  induction m.toList with
  | nil => rfl
  | cons e l ih => rw [List.flatMap_cons, entered_append, ih, List.map_cons, List.sum_cons]

theorem sumOf_zero {κ α : Type} [Ord κ] [Std.TransOrd κ] (m : BTreeMap κ α) :
    BTreeMap.sumOf (fun _ => 0) m = 0 := by
  simp [BTreeMap.sumOf]

namespace CreditAccount

def entries (a : CreditAccount) : List (String × Column × UInt64) :=
  (a.appliedReceipts.toList.flatMap fun e => e.2.entries) ++
    (a.novations.toList.flatMap fun e => e.2.entries) ++
    (a.backingDeposits.toList.flatMap fun e => e.2.entries) ++
    (a.backedSettlements.toList.flatMap fun e => e.2.entries) ++
    (a.closedLoopConsumptions.toList.flatMap fun e => e.2.entries) ++
    (a.settlements.toList.flatMap fun e => e.2.entries)

end CreditAccount

def Column.sum (a : CreditAccount) (i : String) : Column → Nat
  | .peerCreditsSat => Balance.outstanding.credits a i
  | .peerDebitsSat => Balance.outstanding.debits a i
  | .closedDepositsSat => Balance.closedDeposited.credits a i
  | .withdrawableDepositsSat => Balance.reserveDeposited.credits a i
  | .closedAllocationsSat => Balance.closedAllocated.credits a i
  | .withdrawableAllocationsSat => Balance.reserveAllocated.credits a i
  | .closedConsumptionsSat => Balance.closedConsumed.credits a i
  | .pendingExternalSat => Balance.pending.credits a i
  | .settledExternalSat => Balance.settled.credits a i

section

variable (a : CreditAccount) (i : String) (c : Column)

theorem entered_receipts :
    entered i c (a.appliedReceipts.toList.flatMap fun e => e.2.entries) =
      match c with
      | .peerCreditsSat => a.receiptsOf i .peerCredit
      | .closedAllocationsSat => a.receiptsOf i .closedLoopDeposit
      | .withdrawableAllocationsSat => a.receiptsOf i .reserveBackedWithdrawable
      | _ => 0 := by
  rw [entered_flatMap, ← sumOf_zero a.appliedReceipts]
  cases c <;> apply BTreeMap.sumOf_congr <;> intro k r _ <;> cases hc : r.valueClass <;>
    simp [ServiceReceiptClaim.entries, hc]

theorem entered_novations :
    entered i c (a.novations.toList.flatMap fun e => e.2.entries) =
      match c with
      | .peerCreditsSat => a.novatedTo i
      | .peerDebitsSat => a.novatedFrom i
      | _ => 0 := by
  rw [entered_flatMap, ← sumOf_zero a.novations]
  cases c <;> apply BTreeMap.sumOf_congr <;> intro k n _ <;> simp [CreditNovation.entries]

theorem entered_deposits :
    entered i c (a.backingDeposits.toList.flatMap fun e => e.2.entries) =
      match c with
      | .closedDepositsSat => a.depositsOf i .closedLoopDeposit
      | .withdrawableDepositsSat => a.depositsOf i .reserveBackedWithdrawable
      | _ => 0 := by
  rw [entered_flatMap, ← sumOf_zero a.backingDeposits]
  cases c <;> apply BTreeMap.sumOf_congr <;> intro k d _ <;> cases hc : d.valueClass <;>
    simp [BackingDeposit.entries, hc]

theorem entered_backed :
    entered i c (a.backedSettlements.toList.flatMap fun e => e.2.entries) =
      match c with
      | .peerDebitsSat => a.settledFrom i
      | .closedAllocationsSat => a.backedBy i .closedLoopDeposit
      | .withdrawableAllocationsSat => a.backedBy i .reserveBackedWithdrawable
      | _ => 0 := by
  rw [entered_flatMap, ← sumOf_zero a.backedSettlements]
  cases c <;> apply BTreeMap.sumOf_congr <;> intro k b _ <;> cases hc : b.valueClass <;>
    simp [BackedCreditSettlement.entries, hc]

theorem entered_consumptions :
    entered i c (a.closedLoopConsumptions.toList.flatMap fun e => e.2.entries) =
      match c with
      | .closedConsumptionsSat => a.consumedAt i
      | _ => 0 := by
  rw [entered_flatMap, ← sumOf_zero a.closedLoopConsumptions]
  cases c <;> apply BTreeMap.sumOf_congr <;> intro k x _ <;> simp [ClosedLoopConsumption.entries]

theorem SettlementRecord.entered_entries {p : Relationship} {k : String} {x : SettlementRecord}
    (hk : x.Kept p k) :
    entered i c x.entries =
      match c with
      | .pendingExternalSat => if x.request.issuer = i then x.held else 0
      | .settledExternalSat => if x.request.issuer = i then x.spent else 0
      | _ => 0 := by
  cases hstate : x.state with
  | completed fee =>
    have hfee := hk.fee fee hstate
    have hreserve := hk.reserve
    have hlt := x.authorization.reservedSat.toNat_lt
    have hfits : x.request.amountSat.toNat + fee.toNat < 2 ^ 64 := by omega
    have hsum := UInt64.checkedAdd_eq_some.mp (UInt64.checkedAdd_of_fits hfits)
    cases c <;> simp [SettlementRecord.entries, SettlementRecord.held, SettlementRecord.spent,
      hstate, hsum, -UInt64.toNat_add]
  | pending | cancelled =>
    cases c <;> simp [SettlementRecord.entries, SettlementRecord.held, SettlementRecord.spent,
      hstate]

theorem entered_settlements
    (hkept : a.settlements.Each (SettlementRecord.Kept a.relationship)) :
    entered i c (a.settlements.toList.flatMap fun e => e.2.entries) =
      match c with
      | .pendingExternalSat => a.heldFor i
      | .settledExternalSat => a.spentBy i
      | _ => 0 := by
  rw [entered_flatMap, ← sumOf_zero a.settlements]
  cases c <;> apply BTreeMap.sumOf_congr <;> intro k x hx <;>
    simp [SettlementRecord.entered_entries i _ (hkept k x hx)]

theorem entered_entries (hkept : a.settlements.Each (SettlementRecord.Kept a.relationship)) :
    entered i c a.entries = c.sum a i := by
  simp only [CreditAccount.entries, entered_append, entered_receipts, entered_novations,
    entered_deposits, entered_backed, entered_consumptions, entered_settlements a i c hkept]
  cases c <;> simp [Column.sum, Balance.credits, Balance.debits]

end
namespace Balance

def due (t : ExpectedIssuerState) : Balance → Nat
  | outstanding => t.peerCreditsSat.toNat
  | closedDeposited => t.closedDepositsSat.toNat
  | closedAllocated => t.closedAllocationsSat.toNat
  | closedConsumed => t.closedConsumptionsSat.toNat
  | reserveDeposited => t.withdrawableDepositsSat.toNat
  | reserveAllocated => t.withdrawableAllocationsSat.toNat
  | pending => t.pendingExternalSat.toNat
  | settled => t.settledExternalSat.toNat

def owed (t : ExpectedIssuerState) : Balance → Nat
  | outstanding => t.peerDebitsSat.toNat
  | _ => 0

end Balance

def Matches (t : ExpectedIssuerState) (s : IssuerState) : Prop :=
  ∀ b : Balance, b.of s + b.owed t = b.due t

namespace CreditAccountSnapshotV1

theorem validateIssuerTotals_eq_ok {expected : ExpectedTotals} {total total' : UInt64} {i : String}
    {s : IssuerState} :
    validateIssuerTotals expected total i (.ofState s) = .ok total' ↔
      (∃ t, expected[i]? = some t ∧ Matches t s) ∧
        total'.toNat = total.toNat + s.peerCredit.outstandingSat.toNat := by
  simp only [validateIssuerTotals, Except.bind_eq_ok]
  simp only [rejectIf_eq_ok, okOr_eq_ok, exists_const, Option.bind_eq_some_iff,
    UInt64.checkedAdd_eq_some, UInt64.checkedSub_eq_some]
  simp only [IssuerSnapshotV1.ofState, not_or, ne_eq, not_not]
  constructor
  · intro h
    obtain ⟨t, ht, ⟨hcd, hwd⟩, peer, hpeer, hout, ca, hca, ⟨hcaEq, hcc⟩, wa, ⟨w₁, hw₁, hwa⟩,
      ⟨hwaEq, hp, hs⟩, htotal⟩ := h
    refine ⟨⟨t, ht, ?_⟩, htotal⟩
    subst hout hcaEq hwaEq
    intro b
    cases b <;> simp [Balance.of, Balance.owed, Balance.due, hcd, hwd, hcc, hp, hs] <;> omega
  · intro h
    obtain ⟨⟨t, ht, hmatch⟩, htotal⟩ := h
    have ho := hmatch .outstanding
    have hca := hmatch .closedAllocated
    have hra := hmatch .reserveAllocated
    have hcd := hmatch .closedDeposited
    have hcc := hmatch .closedConsumed
    have hrd := hmatch .reserveDeposited
    have hp := hmatch .pending
    have hs := hmatch .settled
    simp only [Balance.of, Balance.owed, Balance.due, Nat.add_zero] at ho hca hra hcd hcc hrd hp hs
    have hlt := t.withdrawableAllocationsSat.toNat_lt
    have hw : s.withdrawable.redeemableSat.toNat +
        s.withdrawable.pendingExternalSat.toNat < 2 ^ 64 := by omega
    have hw₁ := UInt64.checkedAdd_eq_some.mp (UInt64.checkedAdd_of_fits hw)
    refine ⟨t, ht, ⟨?_, ?_⟩, s.peerCredit.outstandingSat, ho, rfl, t.closedAllocationsSat, hca.symm,
      ⟨rfl, ?_⟩, t.withdrawableAllocationsSat, ⟨_, hw₁, ?_⟩, ⟨rfl, ?_, ?_⟩, htotal⟩
    · exact UInt64.toNat_inj.mp hcd.symm
    · exact UInt64.toNat_inj.mp hrd.symm
    · exact UInt64.toNat_inj.mp hcc.symm
    · rw [hw₁]
      exact hra.symm
    · exact UInt64.toNat_inj.mp hp.symm
    · exact UInt64.toNat_inj.mp hs.symm

theorem foldlM_validateIssuerTotals {expected : ExpectedTotals} {total total' : UInt64}
    {l : List (String × IssuerState)} :
    l.foldlM (fun total e => validateIssuerTotals expected total e.1 (.ofState e.2)) total =
        .ok total' ↔
      (∀ e ∈ l, ∃ t, expected[e.1]? = some t ∧ Matches t e.2) ∧
        total'.toNat =
          total.toNat + (l.map fun e => e.2.peerCredit.outstandingSat.toNat).sum := by
  induction l generalizing total with
  | nil =>
    simp only [List.foldlM_nil, Except.pure_eq_ok, List.not_mem_nil, false_implies, implies_true,
      true_and, List.map_nil, List.sum_nil, Nat.add_zero]
    rw [← UInt64.toNat_inj, eq_comm]
  | cons e l ih =>
    simp only [List.foldlM_cons, Except.bind_eq_ok, validateIssuerTotals_eq_ok,
      List.forall_mem_cons, List.map_cons, List.sum_cons, ih]
    constructor
    · intro h
      obtain ⟨next, ⟨he, hnext⟩, hall, htotal⟩ := h
      exact ⟨⟨he, hall⟩, by omega⟩
    · intro h
      obtain ⟨⟨he, hall⟩, htotal⟩ := h
      have hlt := total'.toNat_lt
      have hfits : total.toNat + e.2.peerCredit.outstandingSat.toNat < 2 ^ 64 := by omega
      have hnext := UInt64.checkedAdd_eq_some.mp (UInt64.checkedAdd_of_fits hfits)
      exact ⟨_, ⟨he, hnext⟩, hall, by omega⟩

variable {a : CreditAccount} {expected : ExpectedTotals}

theorem validateTotals_eq_ok :
    a.snapshot.validateTotals expected = .ok () ↔
      (a.issuers.Each fun i s => ∃ t, expected[i]? = some t ∧ Matches t s) ∧
        a.totalPeerCreditSat.toNat = BTreeMap.sumOf (Balance.of .outstanding) a.issuers ∧
        a.totalPeerCreditSat.toNat ≤ a.maxTotalPeerCreditSat.toNat := by
  have hlist : a.snapshot.issuers.toList = a.issuers.toList.map fun e => (e.1, .ofState e.2) :=
    Std.ExtTreeMap.toList_map
  have hsum : BTreeMap.sumOf (Balance.of .outstanding) a.issuers =
      (a.issuers.toList.map fun e => e.2.peerCredit.outstandingSat.toNat).sum := rfl
  simp only [validateTotals, Except.bind_eq_ok, hlist, List.foldlM_map,
    foldlM_validateIssuerTotals]
  simp only [rejectIf_eq_ok, not_or, ne_eq, not_not, UInt64.not_lt, UInt64.le_iff_toNat_le]
  rw [BTreeMap.each_iff_entries, hsum]
  constructor
  · intro h
    obtain ⟨total, ⟨hall, htotal⟩, heq, hcap⟩ := h
    change total = a.totalPeerCreditSat at heq
    change total.toNat ≤ a.maxTotalPeerCreditSat.toNat at hcap
    subst heq
    exact ⟨hall, by simpa using htotal, hcap⟩
  · intro h
    obtain ⟨hall, htotal, hcap⟩ := h
    exact ⟨a.totalPeerCreditSat, ⟨hall, by simpa using htotal⟩, rfl, hcap⟩

theorem count_eq_ok {n : Nat} {c : UInt64} : count n = .ok c ↔ c.toNat = n := by
  have hlt := c.toNat_lt
  unfold count
  split
  · rename_i hn
    rw [Except.ok.injEq, ← UInt64.toNat_inj, UInt64.toNat_ofNat_of_lt' hn, eq_comm]
  · simp only [reduceCtorEq, false_iff]
    omega

theorem checkedCountAdd_eq_ok {total c : UInt64} {n : Nat} :
    checkedCountAdd total n = .ok c ↔ c.toNat = total.toNat + n := by
  simp only [checkedCountAdd, Except.bind_eq_ok, count_eq_ok, okOr_eq_ok,
    UInt64.checkedAdd_eq_some]
  constructor
  · intro h
    obtain ⟨d, rfl, hc⟩ := h
    exact hc
  · intro h
    have hlt := c.toNat_lt
    have hn : n < 2 ^ 64 := by omega
    exact ⟨UInt64.ofNat n, UInt64.toNat_ofNat_of_lt' hn,
      by rw [UInt64.toNat_ofNat_of_lt' hn]; exact h⟩

theorem foldlM_countDecided {l : List (String × SettlementRecord)} {c c' : UInt64} :
    l.foldlM (fun revision e => countDecided revision (.ofRecord e.2)) c = .ok c' ↔
      c'.toNat = c.toNat + (l.map fun e => if e.2.state = .pending then 0 else 1).sum := by
  induction l generalizing c with
  | nil =>
    simp only [List.foldlM_nil, Except.pure_eq_ok, List.map_nil, List.sum_nil, Nat.add_zero]
    rw [← UInt64.toNat_inj, eq_comm]
  | cons e l ih =>
    have hround : ∀ d, countDecided c (.ofRecord e.2) = .ok d ↔
        d.toNat = c.toNat + if e.2.state = .pending then 0 else 1 := by
      intro d
      unfold countDecided SettlementRecordSnapshotV1.ofRecord
      cases e.2.state with
      | pending =>
        simp only [SettlementStateSnapshotV1.ofState, if_true, Except.ok.injEq, Nat.add_zero]
        rw [← UInt64.toNat_inj, eq_comm]
      | completed fee | cancelled =>
        simp [SettlementStateSnapshotV1.ofState, UInt64.checkedAdd_eq_some]
    simp only [List.foldlM_cons, Except.bind_eq_ok, hround, ih, List.map_cons, List.sum_cons]
    constructor
    · intro h
      obtain ⟨d, hd, hc⟩ := h
      omega
    · intro h
      have hlt := c'.toNat_lt
      have hd : c.toNat + (if e.2.state = .pending then 0 else 1) < 2 ^ 64 := by omega
      exact ⟨UInt64.ofNat _, UInt64.toNat_ofNat_of_lt' hd,
        by rw [UInt64.toNat_ofNat_of_lt' hd]; omega⟩

theorem validateRevision_eq_ok :
    a.snapshot.validateRevision = .ok () ↔ a.revision.toNat = a.operationCount := by
  have hlist : a.snapshot.settlements.toList = a.settlements.toList.map fun e =>
      (e.1, .ofRecord e.2) := Std.ExtTreeMap.toList_map
  have hdeposits : a.snapshot.backingDeposits.length = a.backingDeposits.size := by
    simp [snapshot]
  have hsize : a.snapshot.settlements.size = a.settlements.size := by
    simp [snapshot]
  simp only [validateRevision, Except.bind_eq_ok, count_eq_ok, checkedCountAdd_eq_ok, hlist,
    List.foldlM_map, foldlM_countDecided, rejectIf_eq_ok, ne_eq, not_not, hdeposits, hsize]
  change (∃ c₁ : UInt64, c₁.toNat = a.appliedReceipts.size ∧ ∃ c₂ : UInt64,
    c₂.toNat = c₁.toNat + a.novations.size ∧ ∃ c₃ : UInt64,
    c₃.toNat = c₂.toNat + a.backingDeposits.size ∧ ∃ c₄ : UInt64,
    c₄.toNat = c₃.toNat + a.backedSettlements.size ∧ ∃ c₅ : UInt64,
    c₅.toNat = c₄.toNat + a.closedLoopConsumptions.size ∧ ∃ c₆ : UInt64,
    c₆.toNat = c₅.toNat + a.settlements.size ∧ ∃ c₇ : UInt64,
    c₇.toNat = c₆.toNat + BTreeMap.sumOf (fun x => if x.state = .pending then 0 else 1)
      a.settlements ∧ a.revision = c₇) ↔ _
  simp only [operationCount]
  constructor
  · intro h
    obtain ⟨c₁, h₁, c₂, h₂, c₃, h₃, c₄, h₄, c₅, h₅, c₆, h₆, c₇, h₇, rfl⟩ := h
    omega
  · intro h
    have hlt := a.revision.toNat_lt
    have hnat : ∀ n : Nat, n < 2 ^ 64 → (UInt64.ofNat n).toNat = n :=
      fun n hn => UInt64.toNat_ofNat_of_lt' hn
    refine ⟨.ofNat a.appliedReceipts.size, hnat _ (by omega),
      .ofNat (a.appliedReceipts.size + a.novations.size), ?_,
      .ofNat (a.appliedReceipts.size + a.novations.size + a.backingDeposits.size), ?_,
      .ofNat (a.appliedReceipts.size + a.novations.size + a.backingDeposits.size +
        a.backedSettlements.size), ?_,
      .ofNat (a.appliedReceipts.size + a.novations.size + a.backingDeposits.size +
        a.backedSettlements.size + a.closedLoopConsumptions.size), ?_,
      .ofNat (a.appliedReceipts.size + a.novations.size + a.backingDeposits.size +
        a.backedSettlements.size + a.closedLoopConsumptions.size + a.settlements.size), ?_,
      a.revision, ?_, rfl⟩
    all_goals
      repeat rw [hnat _ (by omega)]
    exact h

end CreditAccountSnapshotV1

section

variable {p : Relationship} {e : String × Column × UInt64}

theorem ServiceReceiptClaim.Kept.entry {k : String} {r : ServiceReceiptClaim} (hk : r.Kept p k)
    (he : e ∈ r.entries) : e.1 ∈ p.issuers := by
  unfold ServiceReceiptClaim.entries at he
  have hissuer := hk.issuer
  cases hc : r.valueClass <;> simp_all

theorem CreditNovation.Kept.entry {k : String} {n : CreditNovation} (hk : n.Kept p k)
    (he : e ∈ n.entries) : e.1 ∈ p.issuers := by
  have hfrom := hk.fromIssuer
  have hto := hk.toIssuer
  simp only [CreditNovation.entries, List.mem_cons, List.not_mem_nil, or_false] at he
  rcases he with rfl | rfl
  · exact hfrom
  · exact hto

theorem BackingDeposit.Kept.entry {k : String × String} {d : BackingDeposit} (hk : d.Kept p k)
    (he : e ∈ d.entries) : e.1 ∈ p.issuers := by
  unfold BackingDeposit.entries at he
  have hissuer := hk.issuer
  cases hc : d.valueClass <;> simp_all

theorem BackedCreditSettlement.Kept.entry {k : String} {b : BackedCreditSettlement}
    (hk : b.Kept p k) (he : e ∈ b.entries) : e.1 ∈ p.issuers := by
  unfold BackedCreditSettlement.entries at he
  have hfrom := hk.fromIssuer
  have hbacking := hk.backingIssuer
  rcases List.mem_cons.mp he with rfl | hrest
  · exact hfrom
  · cases hc : b.valueClass <;> simp_all

theorem ClosedLoopConsumption.Kept.entry {k : String} {c : ClosedLoopConsumption}
    (hk : c.Kept p k) (he : e ∈ c.entries) : e.1 ∈ p.issuers := by
  have hissuer := hk.issuer
  simp_all [ClosedLoopConsumption.entries]

theorem SettlementRecord.Kept.entry {k : String} {x : SettlementRecord} (hk : x.Kept p k)
    (he : e ∈ x.entries) : e.1 ∈ p.issuers := by
  unfold SettlementRecord.entries at he
  have hissuer := hk.issuer
  cases hc : x.state <;> simp_all

end

namespace CreditAccount

variable {a : CreditAccount}

theorem Coherent.entry (hc : a.Coherent) {e : String × Column × UInt64} (he : e ∈ a.entries) :
    e.1 ∈ a.relationship.issuers := by
  simp only [entries, List.mem_append, List.mem_flatMap] at he
  rcases he with ((((⟨x, hx, he⟩ | ⟨x, hx, he⟩) | ⟨x, hx, he⟩) | ⟨x, hx, he⟩) | ⟨x, hx, he⟩) |
    ⟨x, hx, he⟩
  · exact (BTreeMap.each_iff_entries.mp hc.receipts x hx).entry he
  · exact (BTreeMap.each_iff_entries.mp hc.novations x hx).entry he
  · exact (BTreeMap.each_iff_entries.mp hc.deposits x hx).entry he
  · exact (BTreeMap.each_iff_entries.mp hc.backed x hx).entry he
  · exact (BTreeMap.each_iff_entries.mp hc.consumptions x hx).entry he
  · exact (BTreeMap.each_iff_entries.mp hc.settlements x hx).entry he

/-- The cumulative peer credit of every issuer fits in 64 bits. -/
def CreditsFit (a : CreditAccount) : Prop :=
  ∀ i, i ∈ a.issuers → Balance.outstanding.credits a i < 2 ^ 64

/-- Only cumulative peer credit can leave the range: every other total is a current balance. -/
theorem Coherent.sum_lt (hc : a.Coherent) (hfits : a.CreditsFit) {i : String} {s : IssuerState}
    (hs : a.issuers[i]? = some s) (c : Column) : c.sum a i < 2 ^ 64 := by
  have hrec := hc.reconciled i s hs
  have hsound := hc.sound i s hs
  have hcredits := hfits i (BTreeMap.mem_of_getElem? hs)
  have hclosed := s.closedLoop.totalDepositedSat.toNat_lt
  have hreserve := s.withdrawable.totalDepositedSat.toNat_lt
  have hcl := hsound.closedLoopConserved
  have hw := hsound.withdrawableConserved
  cases c with
  | peerCreditsSat => exact hcredits
  | peerDebitsSat =>
    have h := hrec .outstanding
    simp only [Column.sum]
    omega
  | closedDepositsSat =>
    have h := hrec .closedDeposited
    simp only [Balance.of, Balance.debits] at h
    simp only [Column.sum]
    omega
  | withdrawableDepositsSat =>
    have h := hrec .reserveDeposited
    simp only [Balance.of, Balance.debits] at h
    simp only [Column.sum]
    omega
  | closedAllocationsSat =>
    have h := hrec .closedAllocated
    simp only [Balance.of, Balance.debits] at h
    simp only [Column.sum]
    omega
  | withdrawableAllocationsSat =>
    have h := hrec .reserveAllocated
    simp only [Balance.of, Balance.debits] at h
    simp only [Column.sum]
    omega
  | closedConsumptionsSat =>
    have h := hrec .closedConsumed
    simp only [Balance.of, Balance.debits] at h
    simp only [Column.sum]
    omega
  | pendingExternalSat =>
    have h := hrec .pending
    simp only [Balance.of, Balance.debits] at h
    simp only [Column.sum]
    omega
  | settledExternalSat =>
    have h := hrec .settled
    simp only [Balance.of, Balance.debits] at h
    simp only [Column.sum]
    omega

/-- The recomputed totals of an issuer agree with its ledgers exactly when its balances
reconcile. -/
theorem matches_iff {t : ExpectedIssuerState} {i : String} {s : IssuerState}
    (ht : ∀ c : Column, (c.get t).toNat = c.sum a i) :
    Matches t s ↔ ∀ b : Balance, b.of s + b.debits a i = b.credits a i := by
  have hdue : ∀ b : Balance, b.due t = b.credits a i := by
    intro b
    cases b with
    | outstanding => exact ht .peerCreditsSat
    | closedDeposited => exact ht .closedDepositsSat
    | closedAllocated => exact ht .closedAllocationsSat
    | closedConsumed => exact ht .closedConsumptionsSat
    | reserveDeposited => exact ht .withdrawableDepositsSat
    | reserveAllocated => exact ht .withdrawableAllocationsSat
    | pending => exact ht .pendingExternalSat
    | settled => exact ht .settledExternalSat
  have howed : ∀ b : Balance, b.owed t = b.debits a i := by
    intro b
    cases b with
    | outstanding => exact ht .peerDebitsSat
    | _ => rfl
  simp only [Matches, hdue, howed]

def zeroTotals (a : CreditAccount) : ExpectedTotals := a.issuers.map fun _ _ => .zero

theorem mem_zeroTotals (i : String) : i ∈ a.zeroTotals ↔ i ∈ a.relationship.issuers := by
  simp [zeroTotals, relationship]

theorem totals_eq (hkept : a.settlements.Each (SettlementRecord.Kept a.relationship))
    {m : ExpectedTotals} (h : KeyedRun Adds a.zeroTotals a.entries m) {i : String}
    {s : IssuerState} (hs : a.issuers[i]? = some s) :
    ∃ t, m[i]? = some t ∧ ∀ c : Column, (c.get t).toNat = c.sum a i := by
  have hzero : a.zeroTotals[i]? = some .zero := by simp [zeroTotals, hs]
  obtain ⟨t, ht, hcolumns⟩ := adds_total h hzero
  refine ⟨t, ht, fun c => ?_⟩
  have hstart : (c.get .zero).toNat = 0 := by cases c <;> rfl
  rw [hcolumns c, hstart, Nat.zero_add, entered_entries a i c hkept]

theorem entries_run_iff {m m' : ExpectedTotals} :
    KeyedRun Adds m a.entries m' ↔ ∃ m₁ m₂ m₃ m₄ m₅,
      KeyedRun Adds m (a.appliedReceipts.toList.flatMap fun e => e.2.entries) m₁ ∧
      KeyedRun Adds m₁ (a.novations.toList.flatMap fun e => e.2.entries) m₂ ∧
      KeyedRun Adds m₂ (a.backingDeposits.toList.flatMap fun e => e.2.entries) m₃ ∧
      KeyedRun Adds m₃ (a.backedSettlements.toList.flatMap fun e => e.2.entries) m₄ ∧
      KeyedRun Adds m₄ (a.closedLoopConsumptions.toList.flatMap fun e => e.2.entries) m₅ ∧
      KeyedRun Adds m₅ (a.settlements.toList.flatMap fun e => e.2.entries) m' := by
  simp only [entries, KeyedRun.append_iff]
  constructor
  · intro h
    obtain ⟨m₅, ⟨m₄, ⟨m₃, ⟨m₂, ⟨m₁, h₁, h₂⟩, h₃⟩, h₄⟩, h₅⟩, h₆⟩ := h
    exact ⟨m₁, m₂, m₃, m₄, m₅, h₁, h₂, h₃, h₄, h₅, h₆⟩
  · intro h
    obtain ⟨m₁, m₂, m₃, m₄, m₅, h₁, h₂, h₃, h₄, h₅, h₆⟩ := h
    exact ⟨m₅, ⟨m₄, ⟨m₃, ⟨m₂, ⟨m₁, h₁, h₂⟩, h₃⟩, h₄⟩, h₅⟩, h₆⟩

theorem snapshot_issuers_isEmpty : a.snapshot.issuers.isEmpty = a.issuers.isEmpty := by
  rw [Std.ExtTreeMap.isEmpty_eq_size_beq_zero, Std.ExtTreeMap.isEmpty_eq_size_beq_zero]
  simp [snapshot]

theorem coherent_of_validate (hkeyed : a.backingDeposits.Each fun k d =>
    k = (d.issuer, d.depositId))
    (h : a.snapshot.validate = .ok ()) : a.Coherent ∧ a.CreditsFit := by
  simp only [validate, Except.bind_eq_ok] at h
  simp only [rejectIf_eq_ok, exists_const, not_or, Bool.not_eq_true, expectIssuers_eq_ok] at h
  obtain ⟨_, ⟨hcounterparty, hissuers⟩, m₀, ⟨hsound, rfl⟩, m₁, h₁, m₂, h₂, m₃, h₃, m₄, h₄, u,
    hevents, m₅, h₅, m₆, h₆, v, htotals, hrevision⟩ := h
  have hm₀ : ∀ i, i ∈ a.zeroTotals ↔ i ∈ a.relationship.issuers := mem_zeroTotals
  obtain ⟨hreceipts, r₁⟩ := (validateReceipts_eq_ok hm₀).mp h₁
  have hm₁ := fun i => (r₁.mem_iff i).trans (hm₀ i)
  obtain ⟨hnovations, r₂⟩ := (validateNovations_eq_ok hm₁).mp h₂
  have hm₂ := fun i => (r₂.mem_iff i).trans (hm₁ i)
  obtain ⟨hdeposits, r₃⟩ := (validateDeposits_eq_ok hm₂ hkeyed).mp h₃
  have hm₃ := fun i => (r₃.mem_iff i).trans (hm₂ i)
  obtain ⟨hbacked, r₄⟩ := (validateBackedSettlements_eq_ok hm₃).mp h₄
  have hm₄ := fun i => (r₄.mem_iff i).trans (hm₃ i)
  obtain ⟨hconsumptions, r₅⟩ := (validateConsumptions_eq_ok hm₄).mp h₅
  have hm₅ := fun i => (r₅.mem_iff i).trans (hm₄ i)
  obtain ⟨hsettlements, r₆⟩ := (validateExternalSettlements_eq_ok hm₅).mp h₆
  have hrun : KeyedRun Adds a.zeroTotals a.entries m₆ :=
    entries_run_iff.mpr ⟨m₁, m₂, m₃, m₄, m₅, r₁, r₂, r₃, r₄, r₅, r₆⟩
  obtain ⟨hmatches, htotal, hcap⟩ := validateTotals_eq_ok.mp htotals
  obtain ⟨hlog, hcovered, hdated⟩ := validatePeerCreditEvents_eq_ok.mp hevents
  have hreconciled : a.issuers.Each fun i s =>
      ∀ b : Balance, b.of s + b.debits a i = b.credits a i := by
    intro i s hs
    obtain ⟨t, ht, hcolumns⟩ := totals_eq hsettlements hrun hs
    obtain ⟨t', ht', hmatch⟩ := hmatches i s hs
    rw [ht, Option.some.injEq] at ht'
    subst ht'
    exact (matches_iff hcolumns).mp hmatch
  refine ⟨⟨hcounterparty, snapshot_issuers_isEmpty ▸ hissuers, hsound, hreceipts, hnovations,
    hdeposits, hbacked, hconsumptions, hsettlements, hreconciled, htotal, hcap, hlog, hcovered,
    hdated, validateRevision_eq_ok.mp hrevision⟩, ?_⟩
  intro i hi
  obtain ⟨s, hs⟩ := BTreeMap.mem_iff_exists.mp hi
  obtain ⟨t, ht, hcolumns⟩ := totals_eq hsettlements hrun hs
  have hlt := t.peerCreditsSat.toNat_lt
  have hcredits := hcolumns .peerCreditsSat
  simp only [Column.get, Column.sum] at hcredits
  omega

/-- The validator accepts the snapshot of a coherent account whose cumulative totals fit. -/
theorem Coherent.validate (hc : a.Coherent) (hfits : a.CreditsFit) :
    a.snapshot.validate = .ok () := by
  have hmem : ∀ e ∈ a.entries, e.1 ∈ a.zeroTotals := fun e he =>
    (mem_zeroTotals e.1).mpr (hc.entry he)
  have hroom : a.zeroTotals.Each fun i s => ∀ c : Column,
      (c.get s).toNat + entered i c a.entries < 2 ^ 64 := by
    intro i t ht c
    rw [zeroTotals, Std.ExtTreeMap.getElem?_map, Option.map_eq_some_iff] at ht
    obtain ⟨s, hs, rfl⟩ := ht
    have hstart : (c.get .zero).toNat = 0 := by cases c <;> rfl
    rw [hstart, Nat.zero_add, entered_entries a i c hc.settlements]
    exact hc.sum_lt hfits hs c
  obtain ⟨m₆, hrun⟩ := adds_exists hmem hroom
  obtain ⟨m₁, m₂, m₃, m₄, m₅, r₁, r₂, r₃, r₄, r₅, r₆⟩ := entries_run_iff.mp hrun
  have hm₀ : ∀ i, i ∈ a.zeroTotals ↔ i ∈ a.relationship.issuers := mem_zeroTotals
  have hm₁ := fun i => (r₁.mem_iff i).trans (hm₀ i)
  have hm₂ := fun i => (r₂.mem_iff i).trans (hm₁ i)
  have hm₃ := fun i => (r₃.mem_iff i).trans (hm₂ i)
  have hm₄ := fun i => (r₄.mem_iff i).trans (hm₃ i)
  have hm₅ := fun i => (r₅.mem_iff i).trans (hm₄ i)
  have hkeyed : a.backingDeposits.Each fun k d => k = (d.issuer, d.depositId) :=
    hc.deposits.imp fun _ _ hk => hk.keyed
  have hmatches : a.issuers.Each fun i s => ∃ t, m₆[i]? = some t ∧ Matches t s := by
    intro i s hs
    obtain ⟨t, ht, hcolumns⟩ := totals_eq hc.settlements hrun hs
    exact ⟨t, ht, (matches_iff hcolumns).mpr (hc.reconciled i s hs)⟩
  simp only [CreditAccountSnapshotV1.validate, Except.bind_eq_ok]
  simp only [rejectIf_eq_ok, exists_const, not_or, Bool.not_eq_true, expectIssuers_eq_ok]
  exact ⟨by simp [snapshot], ⟨hc.counterparty, snapshot_issuers_isEmpty ▸ hc.issuers⟩,
    a.zeroTotals, ⟨hc.sound, rfl⟩,
    m₁, (validateReceipts_eq_ok hm₀).mpr ⟨hc.receipts, r₁⟩,
    m₂, (validateNovations_eq_ok hm₁).mpr ⟨hc.novations, r₂⟩,
    m₃, (validateDeposits_eq_ok hm₂ hkeyed).mpr ⟨hc.deposits, r₃⟩,
    m₄, (validateBackedSettlements_eq_ok hm₃).mpr ⟨hc.backed, r₄⟩,
    (), validatePeerCreditEvents_eq_ok.mpr ⟨hc.log, hc.covered, hc.dated⟩,
    m₅, (validateConsumptions_eq_ok hm₄).mpr ⟨hc.consumptions, r₅⟩,
    m₆, (validateExternalSettlements_eq_ok hm₅).mpr ⟨hc.settlements, r₆⟩,
    (), validateTotals_eq_ok.mpr ⟨hmatches, hc.total, hc.totalCap⟩,
    validateRevision_eq_ok.mpr hc.revision⟩

end CreditAccount

@[simp] theorem IssuerState.ofSnapshot_ofState (s : IssuerState) :
    IssuerState.ofSnapshot (.ofState s) = s := rfl

@[simp] theorem IssuerSnapshotV1.ofState_ofSnapshot (s : IssuerSnapshotV1) :
    IssuerSnapshotV1.ofState (.ofSnapshot s) = s := rfl

@[simp] theorem SettlementRecord.ofSnapshot_ofRecord (x : SettlementRecord) :
    SettlementRecord.ofSnapshot (.ofRecord x) = x := by
  obtain ⟨q, z, state⟩ := x
  cases state <;> rfl

@[simp] theorem SettlementRecordSnapshotV1.ofRecord_ofSnapshot (x : SettlementRecordSnapshotV1) :
    SettlementRecordSnapshotV1.ofRecord (.ofSnapshot x) = x := by
  obtain ⟨q, z, state⟩ := x
  cases state <;> rfl

namespace CreditAccount

variable {a : CreditAccount} {s : CreditAccountSnapshotV1}

/-- Restoring the snapshot of an account whose deposits are filed under their own keys. -/
theorem ofSnapshot_snapshot
    (hkeyed : a.backingDeposits.Each fun k d => k = (d.issuer, d.depositId)) :
    ofSnapshot a.snapshot = a := by
  have hkey : ∀ e ∈ a.backingDeposits.toList, e.1 = (e.2.issuer, e.2.depositId) :=
    BTreeMap.each_iff_entries.mp hkeyed
  have hdeposits : (a.backingDeposits.toList.map (·.2)).foldl
      (fun deposits deposit => deposits.insert (deposit.issuer, deposit.depositId) deposit) ∅ =
      a.backingDeposits := by
    apply BTreeMap.ext_entries
    rw [BTreeMap.toList_foldl_insert (fun d : BackingDeposit => (d.issuer, d.depositId))
      (fun d => d) (BTreeMap.values_ordered hkeyed), List.map_map]
    conv => rhs; rw [← List.map_id a.backingDeposits.toList]
    apply List.map_congr_left
    intro e he
    exact Prod.ext (hkey e he).symm rfl
  have hissuers := BTreeMap.map_map_eq a.issuers IssuerSnapshotV1.ofState IssuerState.ofSnapshot
    IssuerState.ofSnapshot_ofState
  have hsettlements := BTreeMap.map_map_eq a.settlements SettlementRecordSnapshotV1.ofRecord
    SettlementRecord.ofSnapshot SettlementRecord.ofSnapshot_ofRecord
  simp only [ofSnapshot, snapshot, hissuers, hsettlements, hdeposits]

/-- The validator accepts deposits in strictly increasing order of their keys only. -/
theorem deposits_ordered_of_validate (h : s.validate = .ok ()) :
    s.backingDeposits.Pairwise
      (fun d e => compare (d.issuer, d.depositId) (e.issuer, e.depositId) = .lt) := by
  simp only [CreditAccountSnapshotV1.validate, validateDeposits, Except.bind_eq_ok,
    Except.pure_eq_ok] at h
  obtain ⟨_, _, _, _, _, _, _, _, m, _, n, ⟨⟨last, n'⟩, hdeposits, _⟩, _⟩ := h
  have hfold := foldlM_validateDeposit (m := m) (p := ⟨"", {i | i ∈ m}⟩) n'
    s.backingDeposits none fun _ => Iff.rfl
  exact (hfold.mp ⟨last, hdeposits⟩).2.1

theorem toList_ofSnapshot (h : s.validate = .ok ()) :
    (ofSnapshot s).backingDeposits.toList =
      s.backingDeposits.map fun d => ((d.issuer, d.depositId), d) :=
  BTreeMap.toList_foldl_insert (fun d : BackingDeposit => (d.issuer, d.depositId)) (fun d => d)
    (deposits_ordered_of_validate h)

/-- No record of an accepted snapshot is dropped, merged or filed under another key. -/
theorem snapshot_ofSnapshot (h : s.validate = .ok ()) : (ofSnapshot s).snapshot = s := by
  have hversion : s.version = snapshotVersion := by
    simp only [CreditAccountSnapshotV1.validate, Except.bind_eq_ok] at h
    obtain ⟨_, hv, _⟩ := h
    simpa using hv
  have hdeposits : (ofSnapshot s).backingDeposits.toList.map (·.2) = s.backingDeposits := by
    rw [toList_ofSnapshot h, List.map_map]
    exact List.map_id _
  have hissuers := BTreeMap.map_map_eq s.issuers IssuerState.ofSnapshot IssuerSnapshotV1.ofState
    IssuerSnapshotV1.ofState_ofSnapshot
  have hsettlements := BTreeMap.map_map_eq s.settlements SettlementRecord.ofSnapshot
    SettlementRecordSnapshotV1.ofRecord SettlementRecordSnapshotV1.ofRecord_ofSnapshot
  unfold snapshot
  rw [hdeposits]
  simp only [ofSnapshot, hissuers, hsettlements, ← hversion]

theorem keyed_ofSnapshot (h : s.validate = .ok ()) :
    (ofSnapshot s).backingDeposits.Each fun k d => k = (d.issuer, d.depositId) := by
  rw [BTreeMap.each_iff_entries, toList_ofSnapshot h, List.forall_mem_map]
  intro d _
  rfl

theorem fromSnapshot_eq_ok :
    fromSnapshot s = .ok a ↔ s.validate = .ok () ∧ ofSnapshot s = a := by
  simp only [fromSnapshot, Except.bind_eq_ok, Except.pure_eq_ok]
  constructor
  · intro h
    obtain ⟨_, hv, ha⟩ := h
    exact ⟨hv, ha⟩
  · intro h
    exact ⟨(), h⟩

theorem fromSnapshot_coherent (h : fromSnapshot s = .ok a) :
    a.Coherent ∧ a.CreditsFit ∧ a.snapshot = s := by
  obtain ⟨hvalid, rfl⟩ := fromSnapshot_eq_ok.mp h
  have hsnapshot := snapshot_ofSnapshot hvalid
  obtain ⟨hc, hfits⟩ := coherent_of_validate (keyed_ofSnapshot hvalid) (hsnapshot.symm ▸ hvalid)
  exact ⟨hc, hfits, hsnapshot⟩

/-- A coherent account is restored from its snapshot exactly when its cumulative peer credit
fits. -/
theorem Coherent.fromSnapshot_snapshot_iff (hc : a.Coherent) :
    fromSnapshot a.snapshot = .ok a ↔ a.CreditsFit := by
  have hkeyed : a.backingDeposits.Each fun k d => k = (d.issuer, d.depositId) :=
    hc.deposits.imp fun _ _ hk => hk.keyed
  constructor
  · intro h
    exact (coherent_of_validate hkeyed (fromSnapshot_eq_ok.mp h).1).2
  · intro hfits
    exact fromSnapshot_eq_ok.mpr ⟨hc.validate hfits, ofSnapshot_snapshot hkeyed⟩

end CreditAccount
end CashuService

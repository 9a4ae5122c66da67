import CashuService.Base.TwoRuns
import CashuService.Credit.Creation
set_option autoImplicit false

namespace CashuService

/-! The backing of one issuer, seen from two accounts: one that took part in everything, and one
that took part in the dealings with this issuer alone. -/

def IssuerState.backedPart (s : IssuerState) :
    IssuerPolicy × ClosedLoopLedger × WithdrawableReserveLedger :=
  (s.policy, s.closedLoop, s.withdrawable)

/-- An issuer, and the ids that are in use for its backed value. -/
structure Scope where
  issuer : String
  receipts : Set String
  consumptions : Set String
  settlements : Set String

namespace Scope

/-- `b` knows what `a` knows about the backed value of the issuer. -/
structure Relates (k : Scope) (a b : CreditAccount) : Prop where
  revision : b.revision.toNat ≤ a.revision.toNat
  counterparty : b.counterparty = a.counterparty
  backed : b.issuers[k.issuer]?.map IssuerState.backedPart =
    a.issuers[k.issuer]?.map IssuerState.backedPart
  deposits : ∀ id : String, b.backingDeposits[(k.issuer, id)]? = a.backingDeposits[(k.issuer, id)]?
  receipts : ∀ id ∈ k.receipts, b.appliedReceipts[id]? = a.appliedReceipts[id]?
  consumptions : ∀ id ∈ k.consumptions,
    b.closedLoopConsumptions[id]? = a.closedLoopConsumptions[id]?
  settlements : ∀ id ∈ k.settlements, b.settlements[id]? = a.settlements[id]?
  filed : a.settlements.Each fun id x => id ∈ k.settlements ↔ x.request.issuer = k.issuer

def Covers (k : Scope) : Operation → Prop
  | .recordBackingDeposit d _ => d.issuer = k.issuer
  | .applyReceipt c _ _ _ =>
    c.issuer = k.issuer ∧ c.valueClass ≠ .peerCredit ∧ c.receiptId ∈ k.receipts
  | .novatePeerCredit _ _ _ | .settlePeerCreditWithBacking _ _ _ => False
  | .consumeClosedLoop c _ => c.issuer = k.issuer ∧ c.consumptionId ∈ k.consumptions
  | .authorizeExternalSettlement q _ _ => q.issuer = k.issuer ∧ q.settlementId ∈ k.settlements
  | .completeExternalSettlement id _ | .cancelExternalSettlement id => id ∈ k.settlements

def Avoids (k : Scope) : Operation → Prop
  | .recordBackingDeposit d _ => d.issuer ≠ k.issuer
  | .applyReceipt c _ _ _ =>
    (c.issuer ≠ k.issuer ∨ c.valueClass = .peerCredit) ∧ c.receiptId ∉ k.receipts
  | .novatePeerCredit _ _ _ => True
  | .settlePeerCreditWithBacking b _ _ => b.backingIssuer ≠ k.issuer
  | .consumeClosedLoop c _ => c.issuer ≠ k.issuer ∧ c.consumptionId ∉ k.consumptions
  | .authorizeExternalSettlement q _ _ => q.issuer ≠ k.issuer ∧ q.settlementId ∉ k.settlements
  | .completeExternalSettlement id _ | .cancelExternalSettlement id => id ∉ k.settlements

end Scope

theorem Moves.backedPart {s s' : IssuerState} {mv : Movement} (hp : mv.isPeer = true)
    (h : Moves s mv s') : s'.backedPart = s.backedPart := by
  cases h with
  | credit | debit => rfl
  | _ => simp [Movement.isPeer] at hp

/-- Movements at an issuer that are all peer movements leave its backed part alone. -/
theorem posted_backed {m m' : BTreeMap String IssuerState} {es : List (String × Movement)}
    (h : Posted m es m') {i : String} (hi : ∀ mv, (i, mv) ∈ es → mv.isPeer = true) :
    m'[i]?.map IssuerState.backedPart = m[i]?.map IssuerState.backedPart :=
  h.part_eq IssuerState.backedPart i fun mv hmv _ _ hm => hm.backedPart (hi mv hmv)

namespace Scope

variable {k : Scope} {a a' b : CreditAccount} {op : Operation} {r : Response}

theorem getElem?_insert_of_mem {α : Type} {m : BTreeMap String α} {ids : Set String}
    {id j : String} (v : α) (hid : id ∉ ids) (hj : j ∈ ids) : (m.insert id v)[j]? = m[j]? :=
  BTreeMap.getElem?_insert_ne m v fun he => hid (he ▸ hj)

theorem getElem?_modify_of_mem {α : Type} {m : BTreeMap String α} {ids : Set String}
    {id j : String} (g : α → α) (hid : id ∉ ids) (hj : j ∈ ids) : (m.modify id g)[j]? = m[j]? :=
  BTreeMap.getElem?_modify_ne m g fun he => hid (he ▸ hj)

theorem Relates.avoids_backed (h : k.Relates a b) (hop : k.Avoids op)
    (happlied : Applied a op r a') :
    a'.issuers[k.issuer]?.map IssuerState.backedPart =
      a.issuers[k.issuer]?.map IssuerState.backedPart := by
  cases happlied with
  | @deposit d auth revision issuers valid fresh next posted =>
    refine posted_backed posted fun mv hmv => ?_
    cases hc : d.valueClass <;> simp [hc, backing, Ne.symm hop] at hmv
  | @receipt c auth mode now revision total issuers fresh valid next online posted =>
    refine posted_backed posted fun mv hmv => ?_
    rcases hop.1 with hne | hpeer
    · cases hc : c.valueClass <;> simp [hc, receiptEntry, allocation, Ne.symm hne] at hmv
    · simp [receiptEntry, hpeer] at hmv
      simp [hmv.2, Movement.isPeer]
  | @novation n auth now revision issuers fresh valid next posted =>
    refine posted_backed posted fun mv hmv => ?_
    rcases List.mem_cons.mp hmv with he | hmv
    · simp [(Prod.mk.inj he).2, Movement.isPeer]
    · simp [(Prod.mk.inj (List.mem_singleton.mp hmv)).2, Movement.isPeer]
  | @backed s auth now revision total issuers fresh valid next posted =>
    refine posted_backed posted fun mv hmv => ?_
    rcases List.mem_append.mp hmv with hmv | hmv
    · cases hc : s.valueClass <;> simp [hc, allocation, Ne.symm hop] at hmv
    · simp [(Prod.mk.inj (List.mem_singleton.mp hmv)).2, Movement.isPeer]
  | @consumption c auth revision issuers valid fresh next posted =>
    exact posted_backed posted fun mv hmv => by simp [Ne.symm hop.1] at hmv
  | @authorization q auth now revision reserved issuers fresh valid next reserve posted =>
    exact posted_backed posted fun mv hmv => by simp [Ne.symm hop.1] at hmv
  | @completion id fee x revision issuers stored state fits next posted =>
    have hne : x.request.issuer ≠ k.issuer := fun he => hop ((h.filed id x stored).mpr he)
    exact posted_backed posted fun mv hmv => by simp [Ne.symm hne] at hmv
  | @cancellation id x revision issuers stored state next posted =>
    have hne : x.request.issuer ≠ k.issuer := fun he => hop ((h.filed id x stored).mpr he)
    exact posted_backed posted fun mv hmv => by simp [Ne.symm hne] at hmv

theorem Relates.avoids (h : k.Relates a b) (hop : k.Avoids op) (happlied : Applied a op r a') :
    k.Relates a' b := by
  have hnext := happlied.revision_eq
  have hold := h.revision
  have hrevision : b.revision.toNat ≤ a'.revision.toNat := by omega
  have hbacked := h.backed.trans (h.avoids_backed hop happlied).symm
  cases happlied with
  | @deposit d =>
    refine ⟨hrevision, h.counterparty, hbacked, fun id => ?_, h.receipts, h.consumptions,
      h.settlements, h.filed⟩
    have hne : (d.issuer, d.depositId) ≠ (k.issuer, id) := fun he => hop (Prod.mk.inj he).1
    rw [h.deposits, BTreeMap.getElem?_insert_ne _ _ hne]
  | @receipt c =>
    exact ⟨hrevision, h.counterparty, hbacked, h.deposits,
      fun id hid => by rw [h.receipts id hid, getElem?_insert_of_mem c hop.2 hid],
      h.consumptions, h.settlements, h.filed⟩
  | novation | backed =>
    exact ⟨hrevision, h.counterparty, hbacked, h.deposits, h.receipts, h.consumptions,
      h.settlements, h.filed⟩
  | @consumption c =>
    exact ⟨hrevision, h.counterparty, hbacked, h.deposits, h.receipts,
      fun id hid => by rw [h.consumptions id hid, getElem?_insert_of_mem c hop.2 hid],
      h.settlements, h.filed⟩
  | authorization =>
    exact ⟨hrevision, h.counterparty, hbacked, h.deposits, h.receipts, h.consumptions,
      fun id hid => by rw [h.settlements id hid, getElem?_insert_of_mem _ hop.2 hid],
      h.filed.insert (iff_of_false hop.2 hop.1)⟩
  | completion | cancellation =>
    exact ⟨hrevision, h.counterparty, hbacked, h.deposits, h.receipts, h.consumptions,
      fun id hid => by rw [h.settlements id hid, getElem?_modify_of_mem _ hop hid],
      h.filed.modify fun _ _ hy => hy⟩

theorem ensureActive_eq {s t : IssuerState} (h : t.backedPart = s.backedPart) (now : UInt64) :
    t.ensureActive now = s.ensureActive now := by
  have hpolicy : t.policy = s.policy := congrArg Prod.fst h
  simp only [IssuerState.ensureActive, hpolicy]

section

variable (h : k.Relates a b) {i auth : String} {now : UInt64}

include h

theorem Relates.issuer_cases :
    a.issuers[k.issuer]? = none ∧ b.issuers[k.issuer]? = none ∨
      ∃ s t, a.issuers[k.issuer]? = some s ∧ b.issuers[k.issuer]? = some t ∧
        t.backedPart = s.backedPart := by
  have hbacked := h.backed
  cases hs : a.issuers[k.issuer]? <;> cases ht : b.issuers[k.issuer]? <;> simp_all

theorem Relates.issuer_bind (hi : i = k.issuer)
    {α : Type} {f g : IssuerState → Except CreditError α}
    (hfg : ∀ s t : IssuerState, t.backedPart = s.backedPart → g t = f s) :
    (b.issuer i >>= g) = (a.issuer i >>= f) := by
  subst hi
  rcases h.issuer_cases with ⟨hs, ht⟩ | ⟨s, t, hs, ht, hst⟩
  · simp only [CreditAccount.issuer, hs, ht]
    rfl
  · simp only [CreditAccount.issuer, hs, ht]
    exact hfg s t hst

theorem Relates.validateBackingDeposit {d : BackingDeposit} (hi : d.issuer = k.issuer) :
    b.validateBackingDeposit d auth = a.validateBackingDeposit d auth :=
  bind_congr fun _ => h.issuer_bind hi fun _ _ _ => rfl

theorem Relates.validateReceiptIdentity {c : ServiceReceiptClaim} (hi : c.issuer = k.issuer) :
    b.validateReceiptIdentity c auth = a.validateReceiptIdentity c auth := by
  unfold CreditAccount.validateReceiptIdentity
  rw [h.counterparty]
  exact bind_congr fun _ => bind_congr fun _ => h.issuer_bind hi fun _ _ _ => rfl

theorem Relates.validateReceipt {c : ServiceReceiptClaim} (hi : c.issuer = k.issuer) :
    b.validateReceipt c auth now = a.validateReceipt c auth now := by
  unfold CreditAccount.validateReceipt
  rw [h.validateReceiptIdentity hi]
  exact bind_congr fun _ => h.issuer_bind hi fun s t hst => by rw [ensureActive_eq hst]

theorem Relates.validateClosedLoopConsumption {c : ClosedLoopConsumption}
    (hi : c.issuer = k.issuer) :
    b.validateClosedLoopConsumption c auth = a.validateClosedLoopConsumption c auth := by
  unfold CreditAccount.validateClosedLoopConsumption
  rw [h.counterparty]
  exact bind_congr fun _ => bind_congr fun _ => h.issuer_bind hi fun _ _ _ => rfl

theorem Relates.validateSettlementIdentity {q : ExternalSettlementRequest}
    (hi : q.issuer = k.issuer) :
    b.validateSettlementIdentity q auth = a.validateSettlementIdentity q auth := by
  unfold CreditAccount.validateSettlementIdentity
  rw [h.counterparty]
  exact bind_congr fun _ => bind_congr fun _ => h.issuer_bind hi fun _ _ _ => rfl

theorem Relates.validateSettlement {q : ExternalSettlementRequest} (hi : q.issuer = k.issuer) :
    b.validateSettlement q auth now = a.validateSettlement q auth now := by
  unfold CreditAccount.validateSettlement
  rw [h.validateSettlementIdentity hi]
  exact bind_congr fun _ => h.issuer_bind hi fun s t hst => by rw [ensureActive_eq hst]

theorem Relates.ensureWithdrawableCapacity (hi : i = k.issuer) (l : WithdrawableReserveLedger)
    (amount : UInt64) :
    b.ensureWithdrawableCapacity i l amount = a.ensureWithdrawableCapacity i l amount :=
  bind_congr fun _ => h.issuer_bind hi fun s t hst => by
    have hpolicy : t.policy = s.policy := congrArg Prod.fst hst
    rw [hpolicy]

theorem Relates.nextRevision (hroom : a.revision.toNat < 2 ^ 64 - 1) :
    ∃ ra rb, a.nextRevision = .ok ra ∧ b.nextRevision = .ok rb ∧ rb.toNat ≤ ra.toNat := by
  have hle := h.revision
  obtain ⟨ra, hra⟩ := CreditAccount.nextRevision_exists hroom
  obtain ⟨rb, hrb⟩ := CreditAccount.nextRevision_exists (a := b) (by omega)
  have hna := CreditAccount.nextRevision_eq_ok hra
  have hnb := CreditAccount.nextRevision_eq_ok hrb
  exact ⟨ra, rb, hra, hrb, by omega⟩

theorem Relates.write {s t : IssuerState} (hst : t.backedPart = s.backedPart) :
    k.Relates { a with issuers := a.issuers.modify k.issuer fun _ => s }
      { b with issuers := b.issuers.modify k.issuer fun _ => t } := by
  refine ⟨h.revision, h.counterparty, ?_, h.deposits, h.receipts, h.consumptions, h.settlements,
    h.filed⟩
  rw [BTreeMap.getElem?_modify_self, BTreeMap.getElem?_modify_self]
  rcases h.issuer_cases with ⟨hs, ht⟩ | ⟨s, t, hs, ht, _⟩
  · simp [hs, ht]
  · simp [hs, ht, hst]

theorem Relates.issuerMut (hi : i = k.issuer) {m m' : EStateM CreditError IssuerState Unit}
    (hm : ∀ s t : IssuerState, t.backedPart = s.backedPart → Alike m s m' t
      (fun s' t' => t'.backedPart = s'.backedPart) fun s' t' => t'.backedPart = s'.backedPart) :
    Alike (CreditAccount.issuerMut i m) a (CreditAccount.issuerMut i m') b k.Relates
      k.Relates := by
  subst hi
  unfold Alike CreditAccount.issuerMut
  rcases h.issuer_cases with ⟨hs, ht⟩ | ⟨s, t, hs, ht, hst⟩
  · simp only [hs, ht]
    exact ⟨trivial, h⟩
  · have hst' := hm s t hst
    unfold Alike at hst'
    simp only [hs, ht]
    cases hx : m s <;> cases hy : m' t <;> simp only [hx, hy, true_and] at hst' ⊢
    · exact h.write hst'
    · exact ⟨hst'.1, h.write hst'.2⟩

end

theorem closedLoopMut_alike (m : EStateM CreditError ClosedLoopLedger Unit) {s t : IssuerState}
    (h : t.backedPart = s.backedPart) :
    Alike (IssuerState.closedLoopMut m) s (IssuerState.closedLoopMut m) t
      (fun s' t' => t'.backedPart = s'.backedPart) fun s' t' => t'.backedPart = s'.backedPart := by
  simp only [IssuerState.backedPart, Prod.mk.injEq] at h
  obtain ⟨hpolicy, hclosed, hreserve⟩ := h
  unfold Alike IssuerState.closedLoopMut zoom
  rw [hclosed]
  cases m s.closedLoop <;> simp [IssuerState.backedPart, hpolicy, hreserve]

theorem withdrawableMut_alike (m : EStateM CreditError WithdrawableReserveLedger Unit)
    {s t : IssuerState} (h : t.backedPart = s.backedPart) :
    Alike (IssuerState.withdrawableMut m) s (IssuerState.withdrawableMut m) t
      (fun s' t' => t'.backedPart = s'.backedPart) fun s' t' => t'.backedPart = s'.backedPart := by
  simp only [IssuerState.backedPart, Prod.mk.injEq] at h
  obtain ⟨hpolicy, hclosed, hreserve⟩ := h
  unfold Alike IssuerState.withdrawableMut zoom
  rw [hreserve]
  cases m s.withdrawable <;> simp [IssuerState.backedPart, hpolicy, hclosed]

section

variable (h : k.Relates a b) {auth : String} {now : UInt64}
  (hroom : a.revision.toNat < 2 ^ 64 - 1)

include h hroom

theorem Relates.recordBackingDeposit {d : BackingDeposit} (hi : d.issuer = k.issuer) :
    Alike (CreditAccount.recordBackingDeposit d auth) a
      (CreditAccount.recordBackingDeposit d auth) b k.Relates k.Relates := by
  refine .get_bind (.attempt_bind (h.validateBackingDeposit hi) h fun _ _ => .get_bind ?_)
  have hd := h.deposits d.depositId
  rw [← hi] at hd
  simp only [hd]
  cases hstored : a.backingDeposits[(d.issuer, d.depositId)]? with
  | some existing => exact .ite (fun _ => .pure h) fun _ => .throw h
  | none =>
    obtain ⟨ra, rb, hra, hrb, hle⟩ := h.nextRevision hroom
    refine .get_bind (.attempt_ok hra hrb (.bind (q := k.Relates) ?_ ?_))
    · cases d.valueClass with
      | peerCredit => exact .throw h
      | closedLoopDeposit => exact h.issuerMut hi fun _ _ => closedLoopMut_alike _
      | reserveBackedWithdrawable => exact h.issuerMut hi fun _ _ => withdrawableMut_alike _
    · intro _ a' b' h'
      exact .modify_bind (.modify_bind (.pure ⟨hle, h'.counterparty, h'.backed,
        fun id => BTreeMap.getElem?_insert_congr _ _ (h'.deposits id), h'.receipts,
        h'.consumptions, h'.settlements, h'.filed⟩))

omit hroom in
theorem Relates.applyClosedLoop {c : ServiceReceiptClaim} (hi : c.issuer = k.issuer) :
    Alike (CreditAccount.applyClosedLoop c) a (CreditAccount.applyClosedLoop c) b k.Relates
      k.Relates := by
  refine .get_bind (.attempt_bind (h.issuer_bind hi fun s t hst => ?_) h fun ledger _ =>
    h.issuerMut hi fun s t hst => .modify ?_)
  · have hclosed : t.closedLoop = s.closedLoop := congrArg (·.2.1) hst
    rw [hclosed]
    exact bind_congr fun _ => h.issuer_bind hi fun s t hst => by
      have hpolicy : t.policy = s.policy := congrArg Prod.fst hst
      rw [hpolicy]
  · simp_all [IssuerState.backedPart]

omit hroom in
theorem Relates.applyWithdrawable {c : ServiceReceiptClaim} (hi : c.issuer = k.issuer) :
    Alike (CreditAccount.applyWithdrawable c) a (CreditAccount.applyWithdrawable c) b k.Relates
      k.Relates := by
  refine .get_bind (.attempt_bind (h.issuer_bind hi fun s t hst => ?_) h fun ledger _ =>
    h.issuerMut hi fun s t hst => .modify ?_)
  · have hreserve : t.withdrawable = s.withdrawable := congrArg (·.2.2) hst
    simp only [hreserve, h.ensureWithdrawableCapacity hi]
  · simp_all [IssuerState.backedPart]

theorem Relates.applyReceipt {c : ServiceReceiptClaim} {mode : AcceptanceMode}
    (hi : c.issuer = k.issuer) (hclass : c.valueClass ≠ .peerCredit)
    (hid : c.receiptId ∈ k.receipts) :
    Alike (CreditAccount.applyReceipt c auth mode now) a
      (CreditAccount.applyReceipt c auth mode now) b k.Relates k.Relates := by
  refine .get_bind (.attempt_bind (h.validateReceiptIdentity hi) h fun _ _ => .get_bind ?_)
  simp only [h.receipts _ hid]
  cases hstored : a.appliedReceipts[c.receiptId]? with
  | some existing => exact .ite (fun _ => .pure h) fun _ => .throw h
  | none =>
    obtain ⟨ra, rb, hra, hrb, hle⟩ := h.nextRevision hroom
    refine .get_bind (.attempt_bind (h.validateReceipt hi) h fun _ _ =>
      .get_bind (.attempt_ok hra hrb (.bind (q := k.Relates) ?_ ?_)))
    · cases hc : c.valueClass with
      | peerCredit => exact absurd hc hclass
      | closedLoopDeposit => exact .attempt_bind rfl h fun _ _ => h.applyClosedLoop hi
      | reserveBackedWithdrawable =>
        exact .attempt_bind rfl h fun _ _ => h.applyWithdrawable hi
    · intro _ a' b' h'
      refine .modify_bind (.modify_bind (.modify_bind (.pure ?_)))
      simp only [if_neg hclass]
      exact ⟨hle, h'.counterparty, h'.backed, h'.deposits,
        fun id hid => BTreeMap.getElem?_insert_congr _ _ (h'.receipts id hid),
        h'.consumptions, h'.settlements, h'.filed⟩

theorem Relates.consumeClosedLoop {c : ClosedLoopConsumption} (hi : c.issuer = k.issuer)
    (hid : c.consumptionId ∈ k.consumptions) :
    Alike (CreditAccount.consumeClosedLoop c auth) a (CreditAccount.consumeClosedLoop c auth) b
      k.Relates k.Relates := by
  refine .get_bind (.attempt_bind (h.validateClosedLoopConsumption hi) h fun _ _ => .get_bind ?_)
  simp only [h.consumptions _ hid]
  cases hstored : a.closedLoopConsumptions[c.consumptionId]? with
  | some existing => exact .ite (fun _ => .pure h) fun _ => .throw h
  | none =>
    obtain ⟨ra, rb, hra, hrb, hle⟩ := h.nextRevision hroom
    refine .get_bind (.attempt_ok hra hrb (.bind (q := k.Relates)
      (h.issuerMut hi fun _ _ => closedLoopMut_alike _) fun _ a' b' h' => ?_))
    exact .modify_bind (.modify_bind (.pure ⟨hle, h'.counterparty, h'.backed, h'.deposits,
      h'.receipts, fun id hid => BTreeMap.getElem?_insert_congr _ _ (h'.consumptions id hid),
      h'.settlements, h'.filed⟩))

theorem Relates.authorizeExternalSettlement {q : ExternalSettlementRequest}
    (hi : q.issuer = k.issuer) (hid : q.settlementId ∈ k.settlements) :
    Alike (CreditAccount.authorizeExternalSettlement q auth now) a
      (CreditAccount.authorizeExternalSettlement q auth now) b k.Relates k.Relates := by
  refine .get_bind (.attempt_bind (h.validateSettlementIdentity hi) h fun _ _ => .get_bind ?_)
  simp only [h.settlements _ hid]
  cases hstored : a.settlements[q.settlementId]? with
  | some existing =>
    refine .ite (fun _ => .throw h) fun _ => ?_
    cases existing.state with
    | pending => exact .pure h
    | completed | cancelled => exact .throw h
  | none =>
    obtain ⟨ra, rb, hra, hrb, hle⟩ := h.nextRevision hroom
    refine .get_bind (.attempt_bind (h.validateSettlement hi) h fun _ _ =>
      .get_bind (.attempt_ok hra hrb (.attempt_bind rfl h fun reserved _ =>
        .bind (q := k.Relates) (h.issuerMut hi fun _ _ => withdrawableMut_alike _)
          fun _ a' b' h' => ?_)))
    exact .modify_bind (.modify_bind (.pure ⟨hle, h'.counterparty, h'.backed, h'.deposits,
      h'.receipts, h'.consumptions,
      fun id hid => BTreeMap.getElem?_insert_congr _ _ (h'.settlements id hid),
      h'.filed.insert (iff_of_true hid hi)⟩))

theorem Relates.completeExternalSettlement {id : String} {fee : UInt64}
    (hid : id ∈ k.settlements) :
    Alike (CreditAccount.completeExternalSettlement id fee) a
      (CreditAccount.completeExternalSettlement id fee) b k.Relates k.Relates := by
  refine .get_bind (.attempt_bind (by rw [h.settlements _ hid]) h fun x hx => ?_)
  have hi := (h.filed id x (okOr_eq_ok.mp hx)).mp hid
  cases x.state with
  | completed fee' => exact .ite (fun _ => .pure h) fun _ => .throw h
  | cancelled => exact .throw h
  | pending =>
    obtain ⟨ra, rb, hra, hrb, hle⟩ := h.nextRevision hroom
    refine .attempt_bind rfl h fun _ _ => .get_bind (.attempt_ok hra hrb
      (.attempt_bind rfl h fun spent _ => .get_bind (.attempt_bind
        (h.issuer_bind hi fun s t hst => ?_) h fun ledger _ => .bind (q := k.Relates)
          (h.issuerMut hi fun s t hst => .modify ?_) fun _ a' b' h' => ?_)))
    · have hreserve : t.withdrawable = s.withdrawable := congrArg (·.2.2) hst
      rw [hreserve]
    · simp_all [IssuerState.backedPart]
    · exact .modify_bind (.modify ⟨hle, h'.counterparty, h'.backed, h'.deposits,
        h'.receipts, h'.consumptions,
        fun id hid => BTreeMap.getElem?_modify_congr _ _ (h'.settlements id hid),
        h'.filed.modify fun _ _ hy => hy⟩)

theorem Relates.cancelExternalSettlement {id : String} (hid : id ∈ k.settlements) :
    Alike (CreditAccount.cancelExternalSettlement id) a
      (CreditAccount.cancelExternalSettlement id) b k.Relates k.Relates := by
  refine .get_bind (.attempt_bind (by rw [h.settlements _ hid]) h fun x hx => ?_)
  have hi := (h.filed id x (okOr_eq_ok.mp hx)).mp hid
  cases x.state with
  | completed fee' => exact .throw h
  | cancelled => exact .pure h
  | pending =>
    obtain ⟨ra, rb, hra, hrb, hle⟩ := h.nextRevision hroom
    refine .get_bind (.attempt_ok hra hrb (.bind (q := k.Relates)
      (h.issuerMut hi fun _ _ => withdrawableMut_alike _) fun _ a' b' h' => ?_))
    exact .modify_bind (.modify ⟨hle, h'.counterparty, h'.backed, h'.deposits,
      h'.receipts, h'.consumptions,
      fun id hid => BTreeMap.getElem?_modify_congr _ _ (h'.settlements id hid),
      h'.filed.modify fun _ _ hy => hy⟩)

/-- A call on the issuer ends in the same way on both accounts and keeps them related. -/
theorem Relates.covers (hop : k.Covers op) : Alike op.run a op.run b k.Relates k.Relates := by
  cases op with
  | recordBackingDeposit d auth =>
    exact (h.recordBackingDeposit hroom hop).bind fun _ _ _ h' => .pure h'
  | applyReceipt c auth mode now =>
    exact (h.applyReceipt hroom hop.1 hop.2.1 hop.2.2).bind fun _ _ _ h' => .pure h'
  | novatePeerCredit | settlePeerCreditWithBacking => exact hop.elim
  | consumeClosedLoop c auth =>
    exact (h.consumeClosedLoop hroom hop.1 hop.2).bind fun _ _ _ h' => .pure h'
  | authorizeExternalSettlement q auth now =>
    exact (h.authorizeExternalSettlement hroom hop.1 hop.2).bind fun _ _ _ h' => .pure h'
  | completeExternalSettlement id fee =>
    exact (h.completeExternalSettlement hroom hop).bind fun _ _ _ h' => .pure h'
  | cancelExternalSettlement id =>
    exact (h.cancelExternalSettlement hroom hop).bind fun _ _ _ h' => .pure h'

theorem Relates.exec (hop : k.Covers op) : k.Relates (op.exec a) (op.exec b) := by
  have halike := h.covers hroom hop
  unfold Alike at halike
  unfold Operation.exec
  cases hx : op.run a <;> cases hy : op.run b <;> simp_all

end

end Scope

namespace Operation

def concerns (issuerOf : String → String) (i : String) : Operation → Bool
  | recordBackingDeposit d _ => d.issuer = i
  | applyReceipt c _ _ _ => c.issuer = i ∧ c.valueClass ≠ .peerCredit
  | novatePeerCredit _ _ _ | settlePeerCreditWithBacking _ _ _ => false
  | consumeClosedLoop c _ => c.issuer = i
  | authorizeExternalSettlement q _ _ => q.issuer = i
  | completeExternalSettlement id _ | cancelExternalSettlement id => issuerOf id = i

end Operation

/-- A run in which no id is shared between issuers, and in which no backed settlement names
issuer `i` as its backing issuer. A receipt id stands for one issuer and one value class. -/
structure IdsSeparated (issuerOf : String → String) (i : String) (ops : List Operation) :
    Prop where
  receipts : ∀ op ∈ ops, ∀ op' ∈ ops, ∀ c c', Operation.submission op = some (.receipt c) →
    Operation.submission op' = some (.receipt c') → c.receiptId = c'.receiptId →
      c.issuer = c'.issuer ∧ c.valueClass = c'.valueClass
  consumptions : ∀ op ∈ ops, ∀ op' ∈ ops, ∀ c c',
    Operation.submission op = some (.consumption c) →
    Operation.submission op' = some (.consumption c') →
      c.consumptionId = c'.consumptionId → c.issuer = c'.issuer
  settlements : ∀ op ∈ ops, ∀ q, Operation.submission op = some (.external q) →
    q.issuer = issuerOf q.settlementId
  backing : ∀ op ∈ ops, ∀ b, Operation.submission op = some (.backed b) → b.backingIssuer ≠ i

def scopeOf (issuerOf : String → String) (i : String) (ops : List Operation) : Scope where
  issuer := i
  receipts := {id | ∃ op ∈ ops, ∃ c, Operation.submission op = some (.receipt c) ∧
    c.receiptId = id ∧ c.issuer = i ∧ c.valueClass ≠ .peerCredit}
  consumptions := {id | ∃ op ∈ ops, ∃ c, Operation.submission op = some (.consumption c) ∧
    c.consumptionId = id ∧ c.issuer = i}
  settlements := {id | issuerOf id = i}

section

variable {issuerOf : String → String} {i : String} {ops : List Operation} {op : Operation}

theorem IdsSeparated.covers (h : IdsSeparated issuerOf i ops) (hop : op ∈ ops)
    (hi : op.concerns issuerOf i = true) : (scopeOf issuerOf i ops).Covers op := by
  cases op with
  | recordBackingDeposit d auth =>
    simp only [Operation.concerns, decide_eq_true_eq] at hi
    exact hi
  | applyReceipt c auth mode now =>
    simp only [Operation.concerns, decide_eq_true_eq] at hi
    exact ⟨hi.1, hi.2, _, hop, c, rfl, rfl, hi.1, hi.2⟩
  | novatePeerCredit | settlePeerCreditWithBacking => simp [Operation.concerns] at hi
  | consumeClosedLoop c auth =>
    simp only [Operation.concerns, decide_eq_true_eq] at hi
    exact ⟨hi, _, hop, c, rfl, rfl, hi⟩
  | authorizeExternalSettlement q auth now =>
    simp only [Operation.concerns, decide_eq_true_eq] at hi
    exact ⟨hi, (h.settlements _ hop q rfl).symm.trans hi⟩
  | completeExternalSettlement id fee =>
    simp only [Operation.concerns, decide_eq_true_eq] at hi
    exact hi
  | cancelExternalSettlement id =>
    simp only [Operation.concerns, decide_eq_true_eq] at hi
    exact hi

theorem IdsSeparated.avoids (h : IdsSeparated issuerOf i ops) (hop : op ∈ ops)
    (hi : op.concerns issuerOf i = false) : (scopeOf issuerOf i ops).Avoids op := by
  cases op with
  | recordBackingDeposit d auth =>
    simp only [Operation.concerns, decide_eq_false_iff_not] at hi
    exact hi
  | applyReceipt c auth mode now =>
    simp only [Operation.concerns, decide_eq_false_iff_not, not_and, not_not] at hi
    refine ⟨or_iff_not_imp_left.mpr fun hc => hi (not_not.mp hc), ?_⟩
    intro hused
    obtain ⟨op', hop', c', hc', hid, hissuer, hclass⟩ := hused
    obtain ⟨hissuer', hclass'⟩ := h.receipts _ hop' _ hop c' c hc' rfl hid
    exact hclass (hclass'.trans (hi (hissuer'.symm.trans hissuer)))
  | novatePeerCredit => trivial
  | settlePeerCreditWithBacking b auth now => exact h.backing _ hop b rfl
  | consumeClosedLoop c auth =>
    simp only [Operation.concerns, decide_eq_false_iff_not] at hi
    refine ⟨hi, ?_⟩
    intro hused
    obtain ⟨op', hop', c', hc', hid, hissuer⟩ := hused
    exact hi ((h.consumptions _ hop' _ hop c' c hc' rfl hid).symm.trans hissuer)
  | authorizeExternalSettlement q auth now =>
    simp only [Operation.concerns, decide_eq_false_iff_not] at hi
    exact ⟨hi, fun hid => hi ((h.settlements _ hop q rfl).trans hid)⟩
  | completeExternalSettlement id fee =>
    simp only [Operation.concerns, decide_eq_false_iff_not] at hi
    exact hi
  | cancelExternalSettlement id =>
    simp only [Operation.concerns, decide_eq_false_iff_not] at hi
    exact hi

end

namespace CreditAccount

variable {a b : CreditAccount} {k : Scope}

/-- Striking the calls that avoid the issuer from a run keeps the two accounts related. -/
theorem after_filter_relates {keep : Operation → Bool} {ops : List Operation} (h : k.Relates a b)
    (hcovers : ∀ op ∈ ops, keep op = true → k.Covers op)
    (havoids : ∀ op ∈ ops, keep op = false → k.Avoids op)
    (hroom : (a.after ops).revision.toNat < 2 ^ 64 - 1) :
    k.Relates (a.after ops) (b.after (ops.filter keep)) := by
  induction ops generalizing a b with
  | nil => exact h
  | cons op ops ih =>
    obtain ⟨hcover, hcovers⟩ := List.forall_mem_cons.mp hcovers
    obtain ⟨havoid, havoids⟩ := List.forall_mem_cons.mp havoids
    have hfirst := (op.exec_grows a).revision
    have hrest := ((op.exec a).after_grows ops).revision
    have hstep : a.after (op :: ops) = (op.exec a).after ops := rfl
    rw [hstep] at hroom ⊢
    cases hkeep : keep op with
    | true =>
      rw [List.filter_cons_of_pos hkeep]
      have hnext : k.Relates (op.exec a) (op.exec b) :=
        h.exec (by omega) (hcover hkeep)
      exact ih hnext hcovers havoids hroom
    | false =>
      rw [List.filter_cons_of_neg (by simp [hkeep])]
      have hnext : k.Relates (op.exec a) b := by
        rcases op.exec_cases a with hsame | ⟨_, _, happlied⟩
        · rwa [hsame]
        · exact h.avoids (havoid hkeep) happlied
      exact ih hnext hcovers havoids hroom

theorem relates_new {policy : AccountPolicy} (h : new policy = .ok a) (k : Scope) :
    k.Relates a a := by
  simp only [new, Except.bind_eq_ok, Except.pure_eq_ok] at h
  obtain ⟨_, _, _, _, _, _, rfl⟩ := h
  exact ⟨le_rfl, rfl, rfl, fun _ => rfl, fun _ _ => rfl, fun _ _ => rfl, fun _ _ => rfl,
    fun _ _ hx => by simp at hx⟩

/-- The closed-loop and the withdrawable ledger of an issuer. -/
def backedLedgers (a : CreditAccount) (i : String) :
    Option (ClosedLoopLedger × WithdrawableReserveLedger) :=
  a.issuers[i]?.map fun s => (s.closedLoop, s.withdrawable)

theorem backedLedgers_of_relates (h : k.Relates a b) :
    b.backedLedgers k.issuer = a.backedLedgers k.issuer := by
  have hbacked := congrArg (Option.map Prod.snd) h.backed
  simpa [backedLedgers, IssuerState.backedPart, Function.comp_def] using hbacked

/-- Issuer isolation: striking from a run everything that does not concern the backed value of
issuer `i` changes neither the outcome of a remaining call nor the backed ledgers of `i` at any
point. -/
theorem backing_isolated {policy : AccountPolicy} (hnew : new policy = .ok a)
    {issuerOf : String → String} {i : String} {ops : List Operation}
    (hids : IdsSeparated issuerOf i ops)
    (hroom : (a.after ops).revision.toNat < 2 ^ 64 - 1) :
    (∀ before op later, ops = before ++ op :: later → Operation.concerns issuerOf i op = true →
      outcome (Operation.run op) (a.after (before.filter (Operation.concerns issuerOf i))) =
        outcome (Operation.run op) (a.after before)) ∧
    ∀ before later, ops = before ++ later →
      (a.after (before.filter (Operation.concerns issuerOf i))).backedLedgers i =
        (a.after before).backedLedgers i := by
  have hrelates : ∀ before later, ops = before ++ later →
      (scopeOf issuerOf i ops).Relates (a.after before)
        (a.after (before.filter (Operation.concerns issuerOf i))) := by
    intro before later hops
    have hmem : ∀ op ∈ before, op ∈ ops := fun op hop => hops ▸ List.mem_append_left _ hop
    have hlater := ((a.after before).after_grows later).revision
    rw [← after_append, ← hops] at hlater
    exact after_filter_relates (relates_new hnew _) (fun op hop => hids.covers (hmem op hop))
      (fun op hop => hids.avoids (hmem op hop)) (by omega)
  constructor
  · intro before op later hops hi
    have hmem : op ∈ ops := by simp [hops]
    have hlater := ((a.after before).after_grows (op :: later)).revision
    rw [← after_append, ← hops] at hlater
    exact ((hrelates before _ hops).covers (by omega) (hids.covers hmem hi)).outcome_eq
  · intro before later hops
    exact backedLedgers_of_relates (hrelates before later hops)

theorem backing_isolated_sample :
    (sampleAccount.after (sampleOperations.filter
      (Operation.concerns (fun _ => "alpha") "alpha"))).backedLedgers "alpha" =
        (sampleAccount.after sampleOperations).backedLedgers "alpha" := by
  have hids : IdsSeparated (fun _ => "alpha") "alpha" sampleOperations := by
    constructor <;> simp [sampleOperations, Operation.submission, sampleReceipt, sampleRequest]
  exact (backing_isolated sampleAccount_new hids (by decide +kernel)).2 _ [] (by simp)

end CreditAccount
end CashuService

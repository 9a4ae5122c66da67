import CashuService.Credit.Growth
set_option autoImplicit false

namespace CashuService

namespace Moves

variable {s s' : IssuerState} {mv : Movement}

theorem balance (h : Moves s mv s') (b : Balance) :
    b.of s' + mv.decrease b = b.of s + mv.increase b := by
  cases h with
  | credit step | debit step | depositClosedLoop step | allocateClosedLoop step | consume step
  | depositReserve step | allocateReserve step | authorize step | release step =>
    cases step
    cases b
    all_goals
      simp_all [Balance.of, Movement.decrease, Movement.increase]
      try omega

theorem sound {i : String} (hs : s.Sound i) (h : Moves s mv s') : s'.Sound i := by
  obtain ⟨named, issuer, offlinePolicy, offline, peerCap, offlineCap, closedLoopCap,
    withdrawableCap, closedLoopConserved, withdrawableConserved⟩ := hs
  cases h with
  | @credit amount offlineFlag l step cap offlineCap' =>
    obtain ⟨houtstanding, hoffline⟩ := step
    refine ⟨named, issuer, offlinePolicy, ?_, cap, ?_, closedLoopCap, withdrawableCap,
      closedLoopConserved, withdrawableConserved⟩
    · cases offlineFlag with
      | false =>
        simp_all
        omega
      | true => simp_all
    · cases offlineFlag with
      | false => simp_all
      | true => exact offlineCap' rfl
  | debit step =>
    obtain ⟨houtstanding, hoffline⟩ := step
    exact ⟨named, issuer, offlinePolicy, by simp only; omega, by simp only; omega,
      by simp only; omega, closedLoopCap, withdrawableCap, closedLoopConserved,
      withdrawableConserved⟩
  | depositClosedLoop step =>
    obtain ⟨htotal, havailable, hclaimable, hconsumed⟩ := step
    exact ⟨named, issuer, offlinePolicy, offline, peerCap, offlineCap, by simp_all,
      withdrawableCap, by simp_all; omega, withdrawableConserved⟩
  | allocateClosedLoop step cap =>
    obtain ⟨htotal, havailable, hclaimable, hconsumed⟩ := step
    exact ⟨named, issuer, offlinePolicy, offline, peerCap, offlineCap, cap,
      withdrawableCap, by simp_all; omega, withdrawableConserved⟩
  | consume step =>
    obtain ⟨htotal, havailable, hclaimable, hconsumed⟩ := step
    exact ⟨named, issuer, offlinePolicy, offline, peerCap, offlineCap, by simp only; omega,
      withdrawableCap, by simp_all; omega, withdrawableConserved⟩
  | depositReserve step =>
    obtain ⟨htotal, havailable, hredeemable, hpending, hsettled⟩ := step
    exact ⟨named, issuer, offlinePolicy, offline, peerCap, offlineCap, closedLoopCap,
      by simp_all, closedLoopConserved, by simp_all; omega⟩
  | allocateReserve step cap =>
    obtain ⟨htotal, havailable, hredeemable, hpending, hsettled⟩ := step
    exact ⟨named, issuer, offlinePolicy, offline, peerCap, offlineCap, closedLoopCap,
      cap, closedLoopConserved, by simp_all; omega⟩
  | authorize step =>
    obtain ⟨htotal, havailable, hredeemable, hpending, hsettled⟩ := step
    exact ⟨named, issuer, offlinePolicy, offline, peerCap, offlineCap, closedLoopCap,
      by simp only; omega, closedLoopConserved, by simp_all; omega⟩
  | release step =>
    obtain ⟨htotal, havailable, hredeemable, hpending, hsettled⟩ := step
    exact ⟨named, issuer, offlinePolicy, offline, peerCap, offlineCap, closedLoopCap,
      by simp only; omega, closedLoopConserved, by simp_all; omega⟩

theorem peer (hp : mv.isPeer = true) (h : Moves s mv s') :
    PeerMoves s.peerCredit mv s'.peerCredit := by
  cases h with
  | credit step => exact .credit step
  | debit step => exact .debit step
  | _ => simp [Movement.isPeer] at hp

theorem peerCredit_of_not_peer (hp : mv.isPeer = false) (h : Moves s mv s') :
    s'.peerCredit = s.peerCredit := by
  cases h with
  | credit | debit => simp [Movement.isPeer] at hp
  | _ => rfl

end Moves

open CreditAccount KeyedRun

/-- The movements an operation posts account for the change of every balance. -/
structure Booked (a : CreditAccount) (entries : List (String × Movement)) (a' : CreditAccount) :
    Prop where
  posted : Posted a.issuers entries a'.issuers
  balanced : ∀ (i : String) (b : Balance),
    b.credits a' i + b.debits a i + amountAt i (Movement.decrease b) entries =
      b.credits a i + b.debits a' i + amountAt i (Movement.increase b) entries
  total : a'.totalPeerCreditSat.toNat + amountAll (Movement.decrease .outstanding) entries =
    a.totalPeerCreditSat.toNat + amountAll (Movement.increase .outstanding) entries

section

variable {a : CreditAccount} {revision total : UInt64} {issuers : BTreeMap String IssuerState}
  {events : List PeerCreditEvent}

theorem booked_deposit {d : BackingDeposit}
    (fresh : a.backingDeposits[(d.issuer, d.depositId)]? = none)
    (posted : Posted a.issuers (backing d.issuer d.amountSat d.valueClass) issuers) :
    Booked a (backing d.issuer d.amountSat d.valueClass) { a with
      revision, issuers
      backingDeposits := a.backingDeposits.insert (d.issuer, d.depositId) d } := by
  refine ⟨posted, ?_, ?_⟩
  · intro i b
    cases b <;> simp only [Balance.credits, Balance.debits, receiptsOf, novatedTo, novatedFrom,
      settledFrom, backedBy, depositsOf, consumedAt, heldFor, spentBy,
      BTreeMap.sumOf_insert _ _ fresh]
    all_goals
      by_cases hi : d.issuer = i <;> cases d.valueClass <;>
        simp [hi, backing, Movement.increase, Movement.decrease]
  · cases d.valueClass <;> simp [backing, Movement.increase, Movement.decrease]

theorem booked_receipt {c : ServiceReceiptClaim} {mode : AcceptanceMode}
    (fresh : a.appliedReceipts[c.receiptId]? = none)
    (posted : Posted a.issuers (receiptEntry c mode) issuers)
    (sum : total.toNat = a.totalPeerCreditSat.toNat +
      if c.valueClass = .peerCredit then c.amountSat.toNat else 0) :
    Booked a (receiptEntry c mode) { a with
      revision, issuers
      totalPeerCreditSat := total
      peerCreditEvents := events
      appliedReceipts := a.appliedReceipts.insert c.receiptId c } := by
  refine ⟨posted, ?_, ?_⟩
  · intro i b
    cases b <;> simp only [Balance.credits, Balance.debits, receiptsOf, novatedTo, novatedFrom,
      settledFrom, backedBy, depositsOf, consumedAt, heldFor, spentBy,
      BTreeMap.sumOf_insert _ _ fresh]
    all_goals
      by_cases hi : c.issuer = i <;> cases hc : c.valueClass <;>
        simp [hi, hc, receiptEntry, allocation, Movement.increase, Movement.decrease]
    all_goals omega
  · cases hc : c.valueClass <;>
      simp [hc, receiptEntry, allocation, sum, Movement.increase, Movement.decrease]

theorem booked_novation {n : CreditNovation} (fresh : a.novations[n.novationId]? = none)
    (posted : Posted a.issuers
      [(n.fromIssuer, .debit n.amountSat), (n.toIssuer, .credit n.amountSat false)] issuers) :
    Booked a [(n.fromIssuer, .debit n.amountSat), (n.toIssuer, .credit n.amountSat false)]
      { a with
        revision, issuers
        peerCreditEvents := events
        novations := a.novations.insert n.novationId n } := by
  refine ⟨posted, ?_, by simp [Movement.increase, Movement.decrease]⟩
  intro i b
  cases b <;> simp only [Balance.credits, Balance.debits, receiptsOf, novatedTo, novatedFrom,
    settledFrom, backedBy, depositsOf, consumedAt, heldFor, spentBy,
    BTreeMap.sumOf_insert _ _ fresh]
  all_goals
    by_cases hf : n.fromIssuer = i <;> by_cases ht : n.toIssuer = i <;>
      simp [hf, ht, Movement.increase, Movement.decrease]
  all_goals omega

theorem booked_backed {s : BackedCreditSettlement}
    (fresh : a.backedSettlements[s.settlementId]? = none)
    (posted : Posted a.issuers (allocation s.backingIssuer s.amountSat s.valueClass ++
      [(s.fromIssuer, .debit s.amountSat)]) issuers)
    (sum : total.toNat + s.amountSat.toNat = a.totalPeerCreditSat.toNat) :
    Booked a (allocation s.backingIssuer s.amountSat s.valueClass ++
      [(s.fromIssuer, .debit s.amountSat)]) { a with
        revision, issuers
        totalPeerCreditSat := total
        peerCreditEvents := events
        backedSettlements := a.backedSettlements.insert s.settlementId s } := by
  refine ⟨posted, ?_, ?_⟩
  · intro i b
    cases b <;> simp only [Balance.credits, Balance.debits, receiptsOf, novatedTo, novatedFrom,
      settledFrom, backedBy, depositsOf, consumedAt, heldFor, spentBy,
      BTreeMap.sumOf_insert _ _ fresh]
    all_goals
      by_cases hf : s.fromIssuer = i <;> by_cases hb : s.backingIssuer = i <;>
        cases s.valueClass <;> simp [hf, hb, allocation, Movement.increase, Movement.decrease]
    all_goals omega
  · cases s.valueClass <;> simp [allocation, sum, Movement.increase, Movement.decrease]

theorem booked_consumption {c : ClosedLoopConsumption}
    (fresh : a.closedLoopConsumptions[c.consumptionId]? = none)
    (posted : Posted a.issuers [(c.issuer, .consume c.amountSat)] issuers) :
    Booked a [(c.issuer, .consume c.amountSat)] { a with
      revision, issuers
      closedLoopConsumptions := a.closedLoopConsumptions.insert c.consumptionId c } := by
  refine ⟨posted, ?_, by simp [Movement.increase, Movement.decrease]⟩
  intro i b
  cases b <;> simp only [Balance.credits, Balance.debits, receiptsOf, novatedTo, novatedFrom,
    settledFrom, backedBy, depositsOf, consumedAt, heldFor, spentBy,
    BTreeMap.sumOf_insert _ _ fresh]
  all_goals by_cases hi : c.issuer = i <;> simp [hi, Movement.increase, Movement.decrease]

theorem booked_authorization {q : ExternalSettlementRequest} {reserved now : UInt64}
    (fresh : a.settlements[q.settlementId]? = none)
    (posted : Posted a.issuers [(q.issuer, .authorize reserved)] issuers) :
    Booked a [(q.issuer, .authorize reserved)] { a with
      revision, issuers
      settlements := a.settlements.insert q.settlementId
        ⟨q, authorizationFor q reserved now, .pending⟩ } := by
  refine ⟨posted, ?_, by simp [Movement.increase, Movement.decrease]⟩
  intro i b
  cases b <;> simp only [Balance.credits, Balance.debits, receiptsOf, novatedTo, novatedFrom,
    settledFrom, backedBy, depositsOf, consumedAt, heldFor, spentBy,
    BTreeMap.sumOf_insert _ _ fresh]
  all_goals
    by_cases hi : q.issuer = i <;> simp [hi, SettlementRecord.held, SettlementRecord.spent,
      authorizationFor, Movement.increase, Movement.decrease]

variable {id : String} {x : SettlementRecord} {state : SettlementState}

theorem held_decide (i : String) (stored : a.settlements[id]? = some x)
    (pending : x.state = .pending) (decided : state ≠ .pending) :
    BTreeMap.sumOf (fun y => if y.request.issuer = i then y.held else 0)
        (a.settlements.modify id fun y => { y with state }) +
      (if x.request.issuer = i then x.authorization.reservedSat.toNat else 0) =
    BTreeMap.sumOf (fun y => if y.request.issuer = i then y.held else 0) a.settlements := by
  have h := BTreeMap.sumOf_modify (fun y => if y.request.issuer = i then y.held else 0)
    (fun y => { y with state }) stored
  have hold : x.held = x.authorization.reservedSat.toNat := by
    simp [SettlementRecord.held, pending]
  have hnew : SettlementRecord.held { x with state } = 0 := by
    simp [SettlementRecord.held, decided]
  simpa only [hold, hnew, ite_self, Nat.add_zero] using h

theorem spent_decide (state : SettlementState) (i : String) (stored : a.settlements[id]? = some x)
    (pending : x.state = .pending) :
    BTreeMap.sumOf (fun y => if y.request.issuer = i then y.spent else 0)
        (a.settlements.modify id fun y => { y with state }) =
    BTreeMap.sumOf (fun y => if y.request.issuer = i then y.spent else 0) a.settlements +
      if x.request.issuer = i then SettlementRecord.spent { x with state } else 0 := by
  have h := BTreeMap.sumOf_modify (fun y => if y.request.issuer = i then y.spent else 0)
    (fun y => { y with state }) stored
  have hold : x.spent = 0 := by simp [SettlementRecord.spent, pending]
  simpa only [hold, ite_self, Nat.add_zero] using h

theorem booked_decision {spent unused : Nat} (stored : a.settlements[id]? = some x)
    (pending : x.state = .pending) (decided : state ≠ .pending)
    (hspent : SettlementRecord.spent { x with state } = spent)
    (hreserved : spent + unused = x.authorization.reservedSat.toNat)
    (posted : Posted a.issuers [(x.request.issuer, .release spent unused)] issuers) :
    Booked a [(x.request.issuer, .release spent unused)] { a with
      revision, issuers
      settlements := a.settlements.modify id fun y => { y with state } } := by
  refine ⟨posted, ?_, by simp [Movement.increase, Movement.decrease]⟩
  intro i b
  have hheld := held_decide i stored pending decided
  have hpaid := spent_decide state i stored pending
  rw [hspent] at hpaid
  cases b <;> simp only [Balance.credits, Balance.debits, receiptsOf, novatedTo, novatedFrom,
    settledFrom, backedBy, depositsOf, consumedAt, heldFor, spentBy]
  all_goals
    by_cases hi : x.request.issuer = i <;> simp [hi, Movement.increase, Movement.decrease]
  all_goals
    simp only [hi, if_true, if_false] at hheld hpaid
    omega

end

section

variable {a : CreditAccount} {auth : String} {now : UInt64}

theorem mem_issuers_of_issuer {i : String} {s : IssuerState} (h : a.issuer i = .ok s) :
    i ∈ a.relationship.issuers :=
  BTreeMap.mem_of_getElem? (issuer_eq_ok.mp h)

theorem validateBackingDeposit_kept {d : BackingDeposit}
    (h : a.validateBackingDeposit d auth = .ok ()) :
    d.Kept a.relationship (d.issuer, d.depositId) := by
  simp only [validateBackingDeposit, Except.bind_eq_ok, rejectIf_eq_ok] at h
  obtain ⟨_, _, s, hs, _, hid, _, hamount, hclass⟩ := h
  exact ⟨rfl, by simpa using hid, hamount, hclass, mem_issuers_of_issuer hs⟩

theorem validateReceipt_kept {c : ServiceReceiptClaim}
    (h : a.validateReceipt c auth now = .ok ()) : c.Kept a.relationship c.receiptId := by
  simp only [validateReceipt, validateReceiptIdentity, Except.bind_eq_ok, rejectIf_eq_ok] at h
  obtain ⟨_, ⟨_, hcounterparty, _, _, s, hs, hid⟩, _, _, _, _, _, hexpires, _, hissued, _,
    huseful, hamount⟩ := h
  simp only [not_or, Bool.not_eq_true, UInt64.not_lt, UInt64.not_le] at *
  exact ⟨rfl, hid, not_not.mp hcounterparty, huseful.1, huseful.2.1, huseful.2.2, hamount,
    UInt64.lt_of_le_of_lt hissued hexpires, mem_issuers_of_issuer hs⟩

theorem validateNovation_kept {n : CreditNovation} (h : a.validateNovation n auth now = .ok ()) :
    n.Kept a.relationship n.novationId := by
  simp only [validateNovation, validateNovationIdentity, Except.bind_eq_ok, rejectIf_eq_ok,
    Except.pure_eq_ok] at h
  obtain ⟨_, ⟨_, hcounterparty, _, _, _, hne, _, hid, s, hs, t, ht, _⟩, _, _, _, hamount, _⟩ := h
  exact ⟨rfl, by simpa using hid, not_not.mp hcounterparty, hne, hamount,
    mem_issuers_of_issuer hs, mem_issuers_of_issuer ht⟩

theorem validateBackedSettlement_kept {b : BackedCreditSettlement}
    (h : a.validateBackedSettlement b auth now = .ok ()) :
    b.Kept a.relationship b.settlementId := by
  simp only [validateBackedSettlement, validateBackedSettlementIdentity, Except.bind_eq_ok,
    rejectIf_eq_ok] at h
  obtain ⟨_, ⟨_, hcounterparty, _, _, s, hs, t, ht, hid⟩, _, _, _, _, _, _, _, _, _, _, _, hamount,
    hclass⟩ := h
  exact ⟨rfl, by simpa using hid, not_not.mp hcounterparty, hamount, hclass,
    mem_issuers_of_issuer hs, mem_issuers_of_issuer ht⟩

theorem validateClosedLoopConsumption_kept {c : ClosedLoopConsumption}
    (h : a.validateClosedLoopConsumption c auth = .ok ()) :
    c.Kept a.relationship c.consumptionId := by
  simp only [validateClosedLoopConsumption, Except.bind_eq_ok, rejectIf_eq_ok] at h
  obtain ⟨_, hcounterparty, _, _, s, hs, _, hid, _, hresource, hamount⟩ := h
  exact ⟨rfl, by simpa using hid, not_not.mp hcounterparty, by simpa using hresource, hamount,
    mem_issuers_of_issuer hs⟩

theorem validateSettlement_kept {q : ExternalSettlementRequest} {reserved : UInt64}
    (h : a.validateSettlement q auth now = .ok ())
    (hreserved : reserved.toNat = q.amountSat.toNat + q.maxFeeSat.toNat) :
    SettlementRecord.Kept a.relationship q.settlementId
      ⟨q, authorizationFor q reserved now, .pending⟩ := by
  simp only [validateSettlement, validateSettlementIdentity, Except.bind_eq_ok,
    rejectIf_eq_ok] at h
  obtain ⟨_, ⟨_, hcounterparty, _, _, s, hs, hid⟩, _, _, _, _, _, hexpires, _, hamount,
    hdestination⟩ := h
  exact ⟨rfl, by simpa using hid, not_not.mp hcounterparty, by simpa using hdestination, hamount,
    hreserved, rfl, UInt64.not_le.mp hexpires, mem_issuers_of_issuer hs, by simp⟩

end
def peerPart (entries : List (String × Movement)) : List (String × Movement) :=
  entries.filter fun e => e.2.isPeer

/-- How an applied operation shows in the peer-credit log: not at all, or as one event that
explains its movements on the peer ledgers. -/
inductive Logged (a : CreditAccount) (entries : List (String × Movement)) (a' : CreditAccount) :
    Prop where
  | silent (same : a'.peerCreditEvents = a.peerCreditEvents) (still : peerPart entries = [])
      (keeps : ∀ x, a'.Keeps x → a.Keeps x)
  | event {e : PeerCreditEvent} (appended : a'.peerCreditEvents = a.peerCreditEvents ++ [e])
      (dated : e.revision = a'.revision)
      (explained : Explains a' e (peerPart entries))
      (fresh : ¬a.Keeps e.record) (keeps : ∀ x, a'.Keeps x → a.Keeps x ∨ x = e.record)

section

variable {a a' : CreditAccount}

theorem CreditAccount.Explains.grows {event : PeerCreditEvent} {entries : List (String × Movement)}
    (h : Explains a event entries) (hg : a.Grows a') : Explains a' event entries := by
  cases h with
  | receipt stored peer => exact .receipt (hg.receipts _ _ stored) peer
  | novation stored => exact .novation (hg.novations _ _ stored)
  | backedSettlement stored => exact .backedSettlement (hg.backed _ _ stored)

theorem CreditAccount.Explains.keeps {event : PeerCreditEvent} {entries : List (String × Movement)}
    (h : Explains a event entries) : a.Keeps event.record := by
  cases h with
  | receipt stored peer => exact ⟨_, stored, peer⟩
  | novation stored | backedSettlement stored => exact BTreeMap.mem_of_getElem? stored

theorem CreditAccount.Log.event {events : List PeerCreditEvent}
    {ledgers : BTreeMap String PeerCreditLedger} (h : Log a events ledgers) :
    ∀ e ∈ events, 0 < e.revision ∧ ∃ entries, Explains a e entries := by
  induction h with
  | nil => simp
  | snoc prior positive later fresh explained entered ih =>
    intro e he
    rcases List.mem_append.mp he with he | he
    · exact ih e he
    · rw [List.mem_singleton.mp he]
      exact ⟨positive, _, explained⟩

theorem CreditAccount.Log.keeps {events : List PeerCreditEvent}
    {ledgers : BTreeMap String PeerCreditLedger} (h : Log a events ledgers) :
    ∀ e ∈ events, a.Keeps e.record := by
  intro e he
  obtain ⟨_, entries, hexplained⟩ := h.event e he
  exact hexplained.keeps

theorem zero_ledgers_eq {τ : Type} (z : τ) (hmem : ∀ i : String, i ∈ a'.issuers ↔ i ∈ a.issuers) :
    (a'.issuers.map fun _ _ => z) = a.issuers.map fun _ _ => z := by
  apply Std.ExtTreeMap.ext_getElem?
  intro i
  have hi := hmem i
  simp only [Std.ExtTreeMap.mem_iff_isSome_getElem?] at hi
  rw [Std.ExtTreeMap.getElem?_map, Std.ExtTreeMap.getElem?_map]
  cases h' : a'.issuers[i]? <;> cases h : a.issuers[i]? <;> simp_all

theorem CreditAccount.Log.grows {events : List PeerCreditEvent}
    {ledgers : BTreeMap String PeerCreditLedger} (h : Log a events ledgers) (hg : a.Grows a') :
    Log a' events ledgers := by
  induction h with
  | nil =>
    rw [← zero_ledgers_eq PeerCreditLedger.zero hg.issuers]
    exact .nil
  | snoc prior positive later fresh explained entered ih =>
    exact .snoc ih positive later fresh (explained.grows hg) entered

theorem posted_peer {entries : List (String × Movement)}
    {m m' : BTreeMap String IssuerState} (h : Posted m entries m') :
    KeyedRun PeerMoves (m.map fun _ s => s.peerCredit) (peerPart entries)
      (m'.map fun _ s => s.peerCredit) :=
  h.project (fun _ _ _ hp hm => hm.peer hp) fun _ _ _ hp hm => hm.peerCredit_of_not_peer hp

end

section

variable {a : CreditAccount} {revision total : UInt64} {issuers : BTreeMap String IssuerState}

theorem logged_receipt {c : ServiceReceiptClaim} {mode : AcceptanceMode}
    (fresh : a.appliedReceipts[c.receiptId]? = none) :
    Logged a (receiptEntry c mode) { a with
      revision, issuers
      totalPeerCreditSat := total
      peerCreditEvents := a.peerCreditEvents ++ receiptEvents c mode revision
      appliedReceipts := a.appliedReceipts.insert c.receiptId c } := by
  by_cases hclass : c.valueClass = .peerCredit
  · have hevents : receiptEvents c mode revision = [.receipt revision c.receiptId mode] := by
      simp [receiptEvents, hclass]
    have hentry : peerPart (receiptEntry c mode) =
        [(c.issuer, .credit c.amountSat (mode = .offlineDeferred))] := by
      simp [peerPart, receiptEntry, hclass, Movement.isPeer]
    refine .event (by rw [hevents]) rfl ?_ ?_ ?_
    · rw [hentry]
      exact .receipt (BTreeMap.getElem?_insert_self _ _ _) hclass
    · intro hk
      obtain ⟨r, hr, _⟩ := hk
      simp [fresh] at hr
    · intro x hx
      cases x with
      | receipt id =>
        obtain ⟨r, hr, hp⟩ := hx
        by_cases hid : c.receiptId = id
        · exact .inr (by rw [← hid]; rfl)
        · exact .inl ⟨r, (BTreeMap.getElem?_insert_ne _ c hid).symm.trans hr, hp⟩
      | novation id | backedSettlement id => exact .inl hx
  · have hevents : receiptEvents c mode revision = [] := by simp [receiptEvents, hclass]
    refine .silent (by rw [hevents, List.append_nil]) ?_ ?_
    · cases hc : c.valueClass <;> simp_all [peerPart, receiptEntry, allocation, Movement.isPeer]
    · intro x hx
      cases x with
      | receipt id =>
        obtain ⟨r, hr, hp⟩ := hx
        by_cases hid : c.receiptId = id
        · subst hid
          rw [BTreeMap.getElem?_insert_self, Option.some.injEq] at hr
          exact absurd (hr ▸ hp) hclass
        · exact ⟨r, (BTreeMap.getElem?_insert_ne _ c hid).symm.trans hr, hp⟩
      | novation id | backedSettlement id => exact hx

theorem logged_novation {n : CreditNovation} (fresh : a.novations[n.novationId]? = none) :
    Logged a [(n.fromIssuer, .debit n.amountSat), (n.toIssuer, .credit n.amountSat false)]
      { a with
        revision, issuers
        peerCreditEvents := a.peerCreditEvents ++ [.novation revision n.novationId]
        novations := a.novations.insert n.novationId n } := by
  refine .event rfl rfl (.novation (BTreeMap.getElem?_insert_self _ _ _)) ?_ ?_
  · intro hk
    exact BTreeMap.getElem?_eq_none_iff.mp fresh hk
  · intro x hx
    cases x with
    | novation id =>
      rcases BTreeMap.mem_insert.mp hx with rfl | hm
      · exact .inr rfl
      · exact .inl hm
    | receipt id | backedSettlement id => exact .inl hx

theorem logged_backed {s : BackedCreditSettlement}
    (fresh : a.backedSettlements[s.settlementId]? = none) :
    Logged a (allocation s.backingIssuer s.amountSat s.valueClass ++
      [(s.fromIssuer, .debit s.amountSat)]) { a with
        revision, issuers
        totalPeerCreditSat := total
        peerCreditEvents := a.peerCreditEvents ++ [.backedSettlement revision s.settlementId]
        backedSettlements := a.backedSettlements.insert s.settlementId s } := by
  have hentry : peerPart (allocation s.backingIssuer s.amountSat s.valueClass ++
      [(s.fromIssuer, .debit s.amountSat)]) = [(s.fromIssuer, .debit s.amountSat)] := by
    cases s.valueClass <;> simp [peerPart, allocation, Movement.isPeer]
  refine .event rfl rfl ?_ ?_ ?_
  · rw [hentry]
    exact .backedSettlement (BTreeMap.getElem?_insert_self _ _ _)
  · intro hk
    exact BTreeMap.getElem?_eq_none_iff.mp fresh hk
  · intro x hx
    cases x with
    | backedSettlement id =>
      rcases BTreeMap.mem_insert.mp hx with rfl | hm
      · exact .inr rfl
      · exact .inl hm
    | receipt id | novation id => exact .inl hx

end
namespace Applied

variable {a a' : CreditAccount} {op : Operation} {r : Response}

theorem booked (hsettlements : a.settlements.Each (SettlementRecord.Kept a.relationship))
    (h : Applied a op r a') : ∃ entries, Booked a entries a' ∧ Logged a entries a' := by
  cases h with
  | @deposit d auth revision issuers valid fresh next posted =>
    refine ⟨_, booked_deposit fresh posted, .silent rfl ?_ fun x h => h⟩
    cases d.valueClass <;> rfl
  | receipt fresh valid next online posted sum cap =>
    exact ⟨_, booked_receipt fresh posted sum, logged_receipt fresh⟩
  | novation fresh valid next posted =>
    exact ⟨_, booked_novation fresh posted, logged_novation fresh⟩
  | backed fresh valid next posted sum =>
    exact ⟨_, booked_backed fresh posted sum, logged_backed fresh⟩
  | consumption valid fresh next posted =>
    exact ⟨_, booked_consumption fresh posted, .silent rfl rfl fun x h => h⟩
  | authorization fresh valid next reserve posted =>
    exact ⟨_, booked_authorization fresh posted, .silent rfl rfl fun x h => h⟩
  | @completion id fee x revision issuers stored state fits next posted =>
    have hreserve := (hsettlements id x stored).reserve
    have hreleased : x.request.amountSat.toNat + fee.toNat +
        (x.request.maxFeeSat.toNat - fee.toNat) = x.authorization.reservedSat.toNat := by omega
    exact ⟨_, booked_decision stored state (by simp) rfl hreleased posted,
      .silent rfl rfl fun x h => h⟩
  | cancellation stored state next posted =>
    exact ⟨_, booked_decision stored state (by simp) rfl (Nat.zero_add _) posted,
      .silent rfl rfl fun x h => h⟩

theorem operationCount (h : Applied a op r a') : a'.operationCount = a.operationCount + 1 := by
  cases h with
  | deposit valid fresh =>
    simp only [CreditAccount.operationCount, BTreeMap.size_insert _ fresh]
    omega
  | receipt fresh => simp only [CreditAccount.operationCount, BTreeMap.size_insert _ fresh]; omega
  | novation fresh => simp only [CreditAccount.operationCount, BTreeMap.size_insert _ fresh]; omega
  | backed fresh => simp only [CreditAccount.operationCount, BTreeMap.size_insert _ fresh]; omega
  | consumption valid fresh =>
    simp only [CreditAccount.operationCount, BTreeMap.size_insert _ fresh]
    omega
  | authorization fresh =>
    simp only [CreditAccount.operationCount, BTreeMap.size_insert _ fresh,
      BTreeMap.sumOf_insert _ _ fresh, if_true]
    omega
  | @completion id fee x revision issuers stored state =>
    have hsum := BTreeMap.sumOf_modify (fun y => if y.state = .pending then 0 else 1)
      (fun y => { y with state := .completed fee }) stored
    simp only [state, if_true, reduceCtorEq, if_false] at hsum
    simp only [CreditAccount.operationCount, Std.ExtTreeMap.size_modify]
    omega
  | @cancellation id x revision issuers stored state =>
    have hsum := BTreeMap.sumOf_modify (fun y => if y.state = .pending then 0 else 1)
      (fun y => { y with state := .cancelled }) stored
    simp only [state, if_true, reduceCtorEq, if_false] at hsum
    simp only [CreditAccount.operationCount, Std.ExtTreeMap.size_modify]
    omega

theorem kept_receipts (hm : a.appliedReceipts.Each (ServiceReceiptClaim.Kept a.relationship))
    (h : Applied a op r a') :
    a'.appliedReceipts.Each (ServiceReceiptClaim.Kept a.relationship) := by
  cases h with
  | receipt fresh valid => exact hm.insert (validateReceipt_kept valid)
  | _ => exact hm

theorem kept_novations (hm : a.novations.Each (CreditNovation.Kept a.relationship))
    (h : Applied a op r a') : a'.novations.Each (CreditNovation.Kept a.relationship) := by
  cases h with
  | novation fresh valid => exact hm.insert (validateNovation_kept valid)
  | _ => exact hm

theorem kept_deposits (hm : a.backingDeposits.Each (BackingDeposit.Kept a.relationship))
    (h : Applied a op r a') : a'.backingDeposits.Each (BackingDeposit.Kept a.relationship) := by
  cases h with
  | deposit valid => exact hm.insert (validateBackingDeposit_kept valid)
  | _ => exact hm

theorem kept_backed
    (hm : a.backedSettlements.Each (BackedCreditSettlement.Kept a.relationship))
    (h : Applied a op r a') :
    a'.backedSettlements.Each (BackedCreditSettlement.Kept a.relationship) := by
  cases h with
  | backed fresh valid => exact hm.insert (validateBackedSettlement_kept valid)
  | _ => exact hm

theorem kept_consumptions
    (hm : a.closedLoopConsumptions.Each (ClosedLoopConsumption.Kept a.relationship))
    (h : Applied a op r a') :
    a'.closedLoopConsumptions.Each (ClosedLoopConsumption.Kept a.relationship) := by
  cases h with
  | consumption valid => exact hm.insert (validateClosedLoopConsumption_kept valid)
  | _ => exact hm

theorem kept_settlements (hm : a.settlements.Each (SettlementRecord.Kept a.relationship))
    (h : Applied a op r a') : a'.settlements.Each (SettlementRecord.Kept a.relationship) := by
  cases h with
  | authorization fresh valid next reserve =>
    exact hm.insert (validateSettlement_kept valid reserve)
  | @completion id fee x revision issuers stored state fits =>
    apply hm.modify
    intro y hy hk
    rw [stored, Option.some.injEq] at hy
    subst hy
    exact ⟨hk.keyed, hk.named, hk.counterparty, hk.destination, hk.amount, hk.reserve,
      hk.authorization, hk.lifetime, hk.issuer, fun fee' hfee => by cases hfee; exact fits⟩
  | cancellation stored state =>
    apply hm.modify
    intro y hy hk
    exact ⟨hk.keyed, hk.named, hk.counterparty, hk.destination, hk.amount, hk.reserve,
      hk.authorization, hk.lifetime, hk.issuer, fun fee' hfee => by cases hfee⟩
  | _ => exact hm

theorem totalCap (h : Applied a op r a')
    (hcap : a.totalPeerCreditSat.toNat ≤ a.maxTotalPeerCreditSat.toNat) :
    a'.totalPeerCreditSat.toNat ≤ a'.maxTotalPeerCreditSat.toNat := by
  cases h with
  | @receipt c auth mode now revision total issuers fresh valid next online posted sum cap =>
    by_cases hclass : c.valueClass = .peerCredit
    · exact cap hclass
    · simp only [hclass, if_false] at sum
      simp only
      omega
  | backed fresh valid next posted sum =>
    simp only
    omega
  | _ => exact hcap

theorem logged_log {entries : List (String × Movement)} (hc : a.Coherent) (hg : a.Grows a')
    (hrevision : a'.revision.toNat = a.revision.toNat + 1)
    (hpeer : KeyedRun PeerMoves (a.issuers.map fun _ s => s.peerCredit) (peerPart entries)
      (a'.issuers.map fun _ s => s.peerCredit)) (h : Logged a entries a') :
    Log a' a'.peerCreditEvents (a'.issuers.map fun _ s => s.peerCredit) := by
  have hlog := hc.log.grows hg
  cases h with
  | silent same still keeps =>
    rw [still] at hpeer
    generalize (a'.issuers.map fun _ s => s.peerCredit) = ledgers at hpeer ⊢
    cases hpeer
    rwa [same]
  | @event e appended dated explained fresh keeps =>
    rw [appended]
    refine .snoc hlog ?_ ?_ ?_ explained hpeer
    · rw [dated, UInt64.lt_iff_toNat_lt, hrevision]
      exact Nat.succ_pos _
    · intro e' he'
      have hle := UInt64.le_iff_toNat_le.mp (hc.dated e' he')
      rw [dated, UInt64.lt_iff_toNat_lt]
      omega
    · intro e' he' hsame
      exact fresh (hsame ▸ hc.log.keeps e' he')

theorem logged_covered {entries : List (String × Movement)} (hc : a.Coherent)
    (h : Logged a entries a') : ∀ x, a'.Keeps x → ∃ e ∈ a'.peerCreditEvents, e.record = x := by
  intro x hx
  cases h with
  | silent same still keeps =>
    rw [same]
    exact hc.covered x (keeps x hx)
  | @event e appended dated explained fresh keeps =>
    rw [appended]
    rcases keeps x hx with hold | hnew
    · obtain ⟨e', he', hr⟩ := hc.covered x hold
      exact ⟨e', List.mem_append_left _ he', hr⟩
    · exact ⟨e, by simp, hnew.symm⟩

theorem logged_dated {entries : List (String × Movement)} (hc : a.Coherent)
    (hrevision : a'.revision.toNat = a.revision.toNat + 1) (h : Logged a entries a') :
    ∀ e ∈ a'.peerCreditEvents, e.revision ≤ a'.revision := by
  have hold : ∀ e ∈ a.peerCreditEvents, e.revision ≤ a'.revision := by
    intro e he
    have hle := UInt64.le_iff_toNat_le.mp (hc.dated e he)
    rw [UInt64.le_iff_toNat_le]
    omega
  cases h with
  | silent same still keeps => rwa [same]
  | @event e appended dated explained fresh keeps =>
    intro e' he'
    rw [appended] at he'
    rcases List.mem_append.mp he' with he' | he'
    · exact hold e' he'
    · rw [List.mem_singleton.mp he', dated]
      exact UInt64.le_refl _

theorem reconciled {entries : List (String × Movement)}
    (hm : a.issuers.Each fun i s => ∀ b : Balance, b.of s + b.debits a i = b.credits a i)
    (h : Booked a entries a') :
    a'.issuers.Each fun i s => ∀ b : Balance, b.of s + b.debits a' i = b.credits a' i := by
  intro i s' hs' b
  have hi : i ∈ a.issuers := by
    rw [← h.posted.mem_iff]
    exact BTreeMap.mem_of_getElem? hs'
  obtain ⟨s, hs⟩ := BTreeMap.mem_iff_exists.mp hi
  obtain ⟨t, ht, hlevel⟩ := h.posted.level_at _ (fun _ _ _ hmoves => hmoves.balance b) hs
  rw [hs', Option.some.injEq] at ht
  subst ht
  have hold := hm i s hs b
  have hbalanced := h.balanced i b
  omega

theorem coherent (hc : a.Coherent) (h : Applied a op r a') : a'.Coherent := by
  obtain ⟨entries, hbooked, hlogged⟩ := h.booked hc.settlements
  have hg := h.grows
  have hrevision := h.revision_eq
  have hpeer := posted_peer hbooked.posted
  have htotal := hbooked.posted.level_all _ fun _ _ _ hmoves => hmoves.balance .outstanding
  constructor
  case counterparty =>
    have hcounterparty : a'.counterparty = a.counterparty :=
      congrArg Relationship.counterparty hg.relationship
    rw [hcounterparty]
    exact hc.counterparty
  case issuers =>
    rw [BTreeMap.isEmpty_eq_false_iff_exists]
    obtain ⟨i, hi⟩ := BTreeMap.isEmpty_eq_false_iff_exists.mp hc.issuers
    exact ⟨i, (hbooked.posted.mem_iff i).mpr hi⟩
  case sound => exact hbooked.posted.invariant (fun _ _ _ _ hs hm => hm.sound hs) hc.sound
  case receipts => rw [hg.relationship]; exact h.kept_receipts hc.receipts
  case novations => rw [hg.relationship]; exact h.kept_novations hc.novations
  case deposits => rw [hg.relationship]; exact h.kept_deposits hc.deposits
  case backed => rw [hg.relationship]; exact h.kept_backed hc.backed
  case consumptions => rw [hg.relationship]; exact h.kept_consumptions hc.consumptions
  case settlements => rw [hg.relationship]; exact h.kept_settlements hc.settlements
  case reconciled => exact reconciled hc.reconciled hbooked
  case total =>
    have hold := hc.total
    have hnew := hbooked.total
    omega
  case totalCap => exact h.totalCap hc.totalCap
  case log => exact logged_log hc hg hrevision hpeer hlogged
  case covered => exact logged_covered hc hlogged
  case dated => exact logged_dated hc hrevision hlogged
  case revision => rw [h.operationCount, hrevision, hc.revision]

end Applied

namespace CreditAccount

variable {a : CreditAccount}

theorem Coherent.exec (h : a.Coherent) (op : Operation) : (op.exec a).Coherent := by
  rcases op.exec_cases a with he | ⟨r, _, happlied⟩
  · rw [he]
    exact h
  · exact happlied.coherent h

theorem Coherent.after (h : a.Coherent) (ops : List Operation) : (a.after ops).Coherent := by
  induction ops generalizing a with
  | nil => exact h
  | cons op ops ih => exact ih (h.exec op)

theorem insertIssuer_new {issuers issuers' : BTreeMap String IssuerState} {p : IssuerPolicy}
    (hm : issuers.Each fun i s => s = .new s.policy ∧ s.Sound i)
    (h : insertIssuer issuers p = .ok issuers') :
    p.issuer ∈ issuers' ∧ issuers'.Each fun i s => s = .new s.policy ∧ s.Sound i := by
  simp only [insertIssuer, Except.bind_eq_ok, rejectIf_eq_ok, Except.pure_eq_ok, not_or,
    Bool.not_eq_true] at h
  obtain ⟨_, ⟨hnamed, hcap⟩, _, _, rfl⟩ := h
  have hle := UInt64.le_iff_toNat_le.mp (UInt64.not_lt.mp hcap)
  refine ⟨Std.ExtTreeMap.mem_insert_self, hm.insert ⟨rfl, ?_⟩⟩
  exact ⟨hnamed, rfl, hle, Nat.le_refl _, Nat.zero_le _, Nat.zero_le _, Nat.zero_le _,
    Nat.zero_le _, rfl, rfl⟩

theorem foldlM_insertIssuer {ps : List IssuerPolicy}
    {issuers issuers' : BTreeMap String IssuerState}
    (hm : issuers.Each fun i s => s = .new s.policy ∧ s.Sound i)
    (h : ps.foldlM insertIssuer issuers = .ok issuers') (hne : ps ≠ [] ∨ issuers.isEmpty = false) :
    issuers'.isEmpty = false ∧ issuers'.Each fun i s => s = .new s.policy ∧ s.Sound i := by
  induction ps generalizing issuers with
  | nil =>
    simp only [List.foldlM_nil, Except.pure_eq_ok] at h
    subst h
    exact ⟨hne.resolve_left (by simp), hm⟩
  | cons p ps ih =>
    rw [List.foldlM_cons, Except.bind_eq_ok] at h
    obtain ⟨next, hp, hrest⟩ := h
    obtain ⟨hmem, hnext⟩ := insertIssuer_new hm hp
    refine ih hnext hrest (.inr ?_)
    exact BTreeMap.isEmpty_eq_false_iff_exists.mpr ⟨_, hmem⟩

theorem coherent_of_new {a : CreditAccount} (hcounterparty : isBlank a.counterparty = false)
    (hissuers : a.issuers.isEmpty = false)
    (hnew : a.issuers.Each fun i s => s = .new s.policy ∧ s.Sound i)
    (ha : a = { a with
      revision := 0, totalPeerCreditSat := 0, appliedReceipts := ∅, peerCreditEvents := []
      novations := ∅, backingDeposits := ∅, backedSettlements := ∅
      closedLoopConsumptions := ∅, settlements := ∅ }) : a.Coherent := by
  have hzero : (a.issuers.map fun _ s => s.peerCredit) = a.issuers.map fun _ _ => .zero := by
    apply Std.ExtTreeMap.ext_getElem?
    intro i
    rw [Std.ExtTreeMap.getElem?_map, Std.ExtTreeMap.getElem?_map]
    cases hs : a.issuers[i]? with
    | none => rfl
    | some s =>
      rw [(hnew i s hs).1]
      rfl
  have htotal : BTreeMap.sumOf (Balance.of .outstanding) a.issuers = 0 := by
    have hcongr := BTreeMap.sumOf_congr (m := a.issuers) (f := Balance.of .outstanding)
      (g := fun _ => 0) fun i s hs => by rw [(hnew i s hs).1]; rfl
    simpa [BTreeMap.sumOf] using hcongr
  rw [ha]
  constructor
  case counterparty => exact hcounterparty
  case issuers => exact hissuers
  case sound => exact hnew.imp fun _ _ h => h.2
  case reconciled =>
    intro i s hs b
    rw [(hnew i s hs).1]
    cases b <;> rfl
  case total => exact htotal.symm
  case totalCap => exact Nat.zero_le _
  case log => rw [hzero]; exact .nil
  case covered =>
    intro x hx
    cases x with
    | receipt id => obtain ⟨r, hr, _⟩ := hx; simp at hr
    | novation id | backedSettlement id => exact absurd hx Std.ExtTreeMap.not_mem_empty
  case dated => simp
  case revision => rfl
  all_goals
    intro k v hv
    simp at hv

theorem new_coherent {policy : AccountPolicy} (h : new policy = .ok a) : a.Coherent := by
  simp only [new, Except.bind_eq_ok, rejectIf_eq_ok, Except.pure_eq_ok] at h
  obtain ⟨_, hblank, _, hne, issuers, hissuers, rfl⟩ := h
  have hempty : (∅ : BTreeMap String IssuerState).Each fun i s => s = .new s.policy ∧ s.Sound i :=
    fun _ _ hs => by simp at hs
  obtain ⟨hsome, hnew⟩ := foldlM_insertIssuer hempty hissuers (.inl hne)
  exact coherent_of_new (by simpa using hblank) hsome hnew rfl

end CreditAccount
end CashuService

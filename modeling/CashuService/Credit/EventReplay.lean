import CashuService.Credit.Preservation
import CashuService.Credit.Snapshot
set_option autoImplicit false

namespace CashuService

namespace PeerCreditLedger

theorem onClone_credit_eq_ok {l l' : PeerCreditLedger} {amount : UInt64} {offline : Bool} :
    onClone (credit amount offline) l = .ok l' ↔ l.Credited amount offline l' := by
  constructor
  · intro h
    exact (credit_ends l amount offline).of_onClone h
  · intro h
    have hends := credit_ends l amount offline
    have hlt := l'.outstandingSat.toNat_lt
    have hlt' := l'.offlineOutstandingSat.toNat_lt
    obtain ⟨houtstanding, hoffline⟩ := h
    rw [onClone_eq_ok]
    cases hx : credit amount offline l with
    | error e s =>
      obtain ⟨_, _, hover⟩ := hends.of_error hx
      cases offline <;> simp at hover hoffline <;> omega
    | ok u s =>
      obtain ⟨houtstanding', hoffline'⟩ := hends.of_ok hx
      have h₁ : s.outstandingSat = l'.outstandingSat := by
        rw [← UInt64.toNat_inj, houtstanding, houtstanding']
      have h₂ : s.offlineOutstandingSat = l'.offlineOutstandingSat := by
        rw [← UInt64.toNat_inj, hoffline, hoffline']
      cases s
      cases l'
      simp_all

theorem onClone_debit_eq_ok {l l' : PeerCreditLedger} {amount : UInt64} :
    onClone (debit amount) l = .ok l' ↔ l.Debited amount l' := by
  constructor
  · intro h
    exact (debit_ends l amount).of_onClone h
  · intro h
    have hends := debit_ends l amount
    obtain ⟨houtstanding, hoffline⟩ := h
    rw [onClone_eq_ok]
    cases hx : debit amount l with
    | error e s =>
      obtain ⟨_, _, hshort⟩ := hends.of_error hx
      omega
    | ok u s =>
      obtain ⟨houtstanding', hoffline'⟩ := hends.of_ok hx
      have h₁ : s.outstandingSat = l'.outstandingSat := by
        rw [← UInt64.toNat_inj]
        omega
      have h₂ : s.offlineOutstandingSat = l'.offlineOutstandingSat := by
        rw [← UInt64.toNat_inj, hoffline, hoffline', h₁]
      cases s
      cases l'
      simp_all

end PeerCreditLedger

theorem PeerMoves.functional {l l' l'' : PeerCreditLedger} {mv : Movement}
    (h : PeerMoves l mv l') (h' : PeerMoves l mv l'') : l' = l'' := by
  cases h with
  | credit step =>
    cases h' with
    | credit step' =>
      have heq := PeerCreditLedger.onClone_credit_eq_ok.mpr step
      rw [PeerCreditLedger.onClone_credit_eq_ok.mpr step', Except.ok.injEq] at heq
      exact heq.symm
  | debit step =>
    cases h' with
    | debit step' =>
      have heq := PeerCreditLedger.onClone_debit_eq_ok.mpr step
      rw [PeerCreditLedger.onClone_debit_eq_ok.mpr step', Except.ok.injEq] at heq
      exact heq.symm

namespace CreditAccount

variable {a : CreditAccount}

theorem Explains.functional {e : PeerCreditEvent} {entries entries' : List (String × Movement)}
    (h : Explains a e entries) (h' : Explains a e entries') : entries = entries' := by
  cases h with
  | receipt stored peer =>
    cases h' with
    | receipt stored' peer' =>
      rw [stored, Option.some.injEq] at stored'
      subst stored'
      rfl
  | novation stored =>
    cases h' with
    | novation stored' =>
      rw [stored, Option.some.injEq] at stored'
      subst stored'
      rfl
  | backedSettlement stored =>
    cases h' with
    | backedSettlement stored' =>
      rw [stored, Option.some.injEq] at stored'
      subst stored'
      rfl

theorem Log.mem_iff {events : List PeerCreditEvent}
    {ledgers : BTreeMap String PeerCreditLedger} (h : Log a events ledgers) (i : String) :
    i ∈ ledgers ↔ i ∈ a.issuers := by
  induction h with
  | nil => simp
  | snoc prior positive later fresh explained entered ih => rw [entered.mem_iff, ih]

theorem Log.functional {events : List PeerCreditEvent}
    {ledgers ledgers' : BTreeMap String PeerCreditLedger} (h : Log a events ledgers)
    (h' : Log a events ledgers') : ledgers = ledgers' := by
  induction h generalizing ledgers' with
  | nil =>
    generalize hnil : ([] : List PeerCreditEvent) = events at h'
    cases h' with
    | nil => rfl
    | snoc => simp at hnil
  | @snoc events e entries ledgers₁ ledgers₂ prior positive later fresh explained entered ih =>
    generalize hsnoc : events ++ [e] = events' at h'
    cases h' with
    | nil => simp at hsnoc
    | snoc prior' positive' later' fresh' explained' entered' =>
      obtain ⟨rfl, he⟩ := List.append_inj' hsnoc rfl
      cases he
      rw [← ih prior', ← explained.functional explained'] at entered'
      exact KeyedRun.functional (fun _ _ _ _ h h' => h.functional h') entered entered'

end CreditAccount

open CreditAccount

section

variable {ledgers ledgers' : BTreeMap String PeerCreditLedger} {i reason : String}
  {amount : UInt64}

theorem eventLedger_eq_ok {method : EStateM CreditError PeerCreditLedger Unit} {mv : Movement}
    (hmethod : ∀ l l', onClone method l = .ok l' ↔ PeerMoves l mv l') :
    eventLedger ledgers i method reason = .ok ledgers' ↔
      KeyedRun PeerMoves ledgers [(i, mv)] ledgers' := by
  simp only [eventLedger, Except.bind_eq_ok, okOr_eq_ok]
  constructor
  · intro h
    obtain ⟨l, hl, h⟩ := h
    cases hx : onClone method l with
    | error e => simp [hx] at h
    | ok l' =>
      simp only [hx, Except.pure_eq_ok] at h
      subst h
      exact .single hl ((hmethod l l').mp hx)
  · intro h
    cases h with
    | @cons _ _ _ _ _ l l' present taken tail =>
      cases tail
      refine ⟨l, present, ?_⟩
      rw [(hmethod l l').mpr taken]
      rfl

theorem eventLedger_credit_eq_ok {offline : Bool} :
    eventLedger ledgers i (PeerCreditLedger.credit amount offline) reason = .ok ledgers' ↔
      KeyedRun PeerMoves ledgers [(i, .credit amount offline)] ledgers' := by
  apply eventLedger_eq_ok
  intro l l'
  rw [PeerCreditLedger.onClone_credit_eq_ok]
  constructor
  · exact .credit
  · intro h
    cases h
    assumption

theorem eventLedger_debit_eq_ok :
    eventLedger ledgers i (PeerCreditLedger.debit amount) reason = .ok ledgers' ↔
      KeyedRun PeerMoves ledgers [(i, .debit amount)] ledgers' := by
  apply eventLedger_eq_ok
  intro l l'
  rw [PeerCreditLedger.onClone_debit_eq_ok]
  constructor
  · exact .debit
  · intro h
    cases h
    assumption

end

def Names (kind : String → PeerCreditRecord) (events : List PeerCreditEvent)
    (seen : Std.ExtTreeSet String compare) : Prop :=
  ∀ id, id ∈ seen ↔ ∃ e ∈ events, e.record = kind id

section

variable {kind : String → PeerCreditRecord} {events : List PeerCreditEvent}
  {seen : Std.ExtTreeSet String compare} {e : PeerCreditEvent}

theorem Names.insert (hinj : Function.Injective kind) (h : Names kind events seen) {x : String}
    (he : e.record = kind x) : Names kind (events ++ [e]) (seen.insert x) := by
  intro id
  rw [Std.ExtTreeSet.mem_insert, h id, Std.LawfulEqOrd.compare_eq_iff_eq]
  simp only [List.mem_append, List.mem_singleton, or_and_right, exists_or, exists_eq_left, he,
    hinj.eq_iff]
  exact Or.comm

theorem Names.skip (h : Names kind events seen) (hne : ∀ id, e.record ≠ kind id) :
    Names kind (events ++ [e]) seen := by
  intro id
  rw [h id]
  simp [or_and_right, exists_or, hne id]

end

/-- What the working state of the replay knows after a part of the log. -/
structure Tracks (a : CreditAccount) (events : List PeerCreditEvent) (replay : EventReplay) :
    Prop where
  log : Log a events replay.ledgers
  receipts : Names .receipt events replay.seenReceipts
  novations : Names .novation events replay.seenNovations
  settlements : Names .backedSettlement events replay.seenSettlements
  dated : ∀ e ∈ events, e.revision ≤ a.revision
  before : ∀ e ∈ events, e.revision ≤ replay.previousRevision
  previous : replay.previousRevision = 0 ∨ ∃ e ∈ events, e.revision = replay.previousRevision

namespace CreditAccountSnapshotV1

variable {a : CreditAccount} {events : List PeerCreditEvent} {replay replay' : EventReplay}
  {e : PeerCreditEvent}

theorem tracks_start : Tracks a [] a.snapshot.replayStart := by
  have hzero : a.snapshot.replayStart.ledgers = a.issuers.map fun _ _ => .zero := by
    apply Std.ExtTreeMap.ext_getElem?
    intro i
    simp [replayStart, snapshot]
  refine ⟨?_, ?_, ?_, ?_, by simp, by simp, .inl rfl⟩
  · rw [hzero]
    exact .nil
  all_goals
    intro id
    simp [replayStart]

theorem revision_checks (ht : Tracks a events replay)
    (h : ¬(e.revision = 0 ∨ e.revision ≤ replay.previousRevision ∨
      a.snapshot.revision < e.revision)) :
    0 < e.revision ∧ (∀ e' ∈ events, e'.revision < e.revision) ∧ e.revision ≤ a.revision := by
  simp only [not_or, UInt64.not_le, UInt64.not_lt] at h
  obtain ⟨hzero, hprevious, hdated⟩ := h
  exact ⟨UInt64.pos_iff_ne_zero.mpr hzero,
    fun e' he' => UInt64.lt_of_le_of_lt (ht.before e' he') hprevious, hdated⟩

theorem tracks_snoc {entries : List (String × Movement)} (ht : Tracks a events replay)
    (checks : 0 < e.revision ∧ (∀ e' ∈ events, e'.revision < e.revision) ∧
      e.revision ≤ a.revision)
    (fresh : ∀ e' ∈ events, e'.record ≠ e.record) (explained : Explains a e entries)
    (entered : KeyedRun PeerMoves replay.ledgers entries replay'.ledgers)
    (receipts : Names .receipt (events ++ [e]) replay'.seenReceipts)
    (novations : Names .novation (events ++ [e]) replay'.seenNovations)
    (settlements : Names .backedSettlement (events ++ [e]) replay'.seenSettlements)
    (previous : replay'.previousRevision = e.revision) : Tracks a (events ++ [e]) replay' := by
  obtain ⟨hpos, hlater, hdated⟩ := checks
  refine ⟨.snoc ht.log hpos hlater fresh explained entered, receipts, novations, settlements,
    ?_, ?_, .inr ⟨e, by simp, previous.symm⟩⟩
  · intro e' he'
    rcases List.mem_append.mp he' with he' | he'
    · exact ht.dated e' he'
    · rwa [List.mem_singleton.mp he']
  · intro e' he'
    rw [previous]
    rcases List.mem_append.mp he' with he' | he'
    · exact UInt64.le_of_lt (hlater e' he')
    · rw [List.mem_singleton.mp he']
      exact UInt64.le_refl _

theorem fresh_of_not_mem {kind : String → PeerCreditRecord} {id : String}
    {seen : Std.ExtTreeSet String compare} (hn : Names kind events seen) (h : id ∉ seen)
    (he : e.record = kind id) : ∀ e' ∈ events, e'.record ≠ e.record := by
  intro e' he' hsame
  exact h ((hn id).mpr ⟨e', he', hsame.trans he⟩)

theorem tracks_replayEvent (ht : Tracks a events replay)
    (h : a.snapshot.replayEvent replay e = .ok replay') : Tracks a (events ++ [e]) replay' := by
  simp only [replayEvent, Except.bind_eq_ok] at h
  simp only [rejectIf_eq_ok, exists_const] at h
  obtain ⟨hchecks, h⟩ := h
  have checks := revision_checks ht hchecks
  cases e with
  | receipt revision id mode =>
    simp only [Except.bind_eq_ok, rejectIf_eq_ok, okOr_eq_ok, exists_const, Except.pure_eq_ok,
      ne_eq, not_not, eventLedger_credit_eq_ok] at h
    obtain ⟨hseen, r, hr, hpeer, ledgers, hrun, rfl⟩ := h
    exact tracks_snoc ht checks (fresh_of_not_mem ht.receipts hseen rfl) (.receipt hr hpeer) hrun
      (ht.receipts.insert (fun _ _ => PeerCreditRecord.receipt.inj) rfl)
      (ht.novations.skip fun _ => by simp [PeerCreditEvent.record])
      (ht.settlements.skip fun _ => by simp [PeerCreditEvent.record]) rfl
  | novation revision id =>
    simp only [Except.bind_eq_ok, rejectIf_eq_ok, okOr_eq_ok, exists_const, Except.pure_eq_ok,
      eventLedger_credit_eq_ok, eventLedger_debit_eq_ok] at h
    obtain ⟨hseen, n, hn, ledgers₁, hdebit, ledgers, hcredit, rfl⟩ := h
    exact tracks_snoc ht checks (fresh_of_not_mem ht.novations hseen rfl) (.novation hn)
      (hdebit.append hcredit) (ht.receipts.skip fun _ => by simp [PeerCreditEvent.record])
      (ht.novations.insert (fun _ _ => PeerCreditRecord.novation.inj) rfl)
      (ht.settlements.skip fun _ => by simp [PeerCreditEvent.record]) rfl
  | backedSettlement revision id =>
    simp only [Except.bind_eq_ok, rejectIf_eq_ok, okOr_eq_ok, exists_const, Except.pure_eq_ok,
      eventLedger_debit_eq_ok] at h
    obtain ⟨hseen, b, hb, ledgers, hdebit, rfl⟩ := h
    exact tracks_snoc ht checks (fresh_of_not_mem ht.settlements hseen rfl)
      (.backedSettlement hb) hdebit (ht.receipts.skip fun _ => by simp [PeerCreditEvent.record])
      (ht.novations.skip fun _ => by simp [PeerCreditEvent.record])
      (ht.settlements.insert (fun _ _ => PeerCreditRecord.backedSettlement.inj) rfl) rfl

theorem not_mem_of_fresh {kind : String → PeerCreditRecord} {id : String}
    {seen : Std.ExtTreeSet String compare} (hn : Names kind events seen)
    (fresh : ∀ e' ∈ events, e'.record ≠ e.record) (he : e.record = kind id) : id ∉ seen := by
  intro h
  obtain ⟨e', he', hsame⟩ := (hn id).mp h
  exact fresh e' he' (hsame.trans he.symm)

theorem replayEvent_exists {entries : List (String × Movement)}
    {ledgers : BTreeMap String PeerCreditLedger} (ht : Tracks a events replay)
    (positive : 0 < e.revision) (later : ∀ e' ∈ events, e'.revision < e.revision)
    (fresh : ∀ e' ∈ events, e'.record ≠ e.record) (explained : Explains a e entries)
    (entered : KeyedRun PeerMoves replay.ledgers entries ledgers)
    (dated : e.revision ≤ a.revision) :
    ∃ replay', a.snapshot.replayEvent replay e = .ok replay' := by
  have hprevious : replay.previousRevision < e.revision := by
    rcases ht.previous with hzero | ⟨e', he', hlast⟩
    · rwa [hzero]
    · rw [← hlast]
      exact later e' he'
  have hchecks : ¬(e.revision = 0 ∨ e.revision ≤ replay.previousRevision ∨
      a.snapshot.revision < e.revision) := by
    simp only [not_or, UInt64.not_le, UInt64.not_lt]
    exact ⟨UInt64.pos_iff_ne_zero.mp positive, hprevious, dated⟩
  simp only [replayEvent, Except.bind_eq_ok]
  simp only [rejectIf_eq_ok, exists_const, hchecks, not_false_eq_true, true_and]
  cases explained with
  | @receipt revision id mode r stored peer =>
    simp only [Except.bind_eq_ok, rejectIf_eq_ok, okOr_eq_ok, exists_const, Except.pure_eq_ok,
      ne_eq, not_not, eventLedger_credit_eq_ok]
    exact ⟨_, not_mem_of_fresh ht.receipts fresh rfl, r, stored, peer, ledgers, entered, rfl⟩
  | @novation revision id n stored =>
    rw [← List.singleton_append, KeyedRun.append_iff] at entered
    obtain ⟨ledgers₁, hdebit, hcredit⟩ := entered
    simp only [Except.bind_eq_ok, rejectIf_eq_ok, okOr_eq_ok, exists_const, Except.pure_eq_ok,
      eventLedger_credit_eq_ok, eventLedger_debit_eq_ok]
    exact ⟨_, not_mem_of_fresh ht.novations fresh rfl, n, stored, ledgers₁, hdebit, ledgers,
      hcredit, rfl⟩
  | @backedSettlement revision id b stored =>
    simp only [Except.bind_eq_ok, rejectIf_eq_ok, okOr_eq_ok, exists_const, Except.pure_eq_ok,
      eventLedger_debit_eq_ok]
    exact ⟨_, not_mem_of_fresh ht.settlements fresh rfl, b, stored, ledgers, entered, rfl⟩

theorem tracks_foldlM {rest : List PeerCreditEvent} (ht : Tracks a events replay)
    (h : rest.foldlM a.snapshot.replayEvent replay = .ok replay') :
    Tracks a (events ++ rest) replay' := by
  induction rest generalizing events replay with
  | nil =>
    simp only [List.foldlM_nil, Except.pure_eq_ok] at h
    subst h
    simpa using ht
  | cons e rest ih =>
    simp only [List.foldlM_cons, Except.bind_eq_ok] at h
    obtain ⟨next, hnext, hrest⟩ := h
    have htracks := ih (tracks_replayEvent ht hnext) hrest
    simpa using htracks

theorem foldlM_exists {ledgers : BTreeMap String PeerCreditLedger} (h : Log a events ledgers)
    (hdated : ∀ e ∈ events, e.revision ≤ a.revision) :
    ∃ replay, events.foldlM a.snapshot.replayEvent a.snapshot.replayStart = .ok replay := by
  induction h with
  | nil => exact ⟨_, rfl⟩
  | @snoc events e entries ledgers₁ ledgers₂ prior positive later fresh explained entered ih =>
    obtain ⟨replay, hreplay⟩ := ih fun e' he' => hdated e' (List.mem_append_left _ he')
    have ht : Tracks a events replay := by simpa using tracks_foldlM tracks_start hreplay
    rw [prior.functional ht.log] at entered
    obtain ⟨replay', hnext⟩ := replayEvent_exists ht positive later fresh explained entered
      (hdated e (by simp))
    exact ⟨replay', by simp [List.foldlM_append, hreplay, hnext, bind, Except.bind]⟩

theorem coverage_iff (ht : Tracks a events replay) :
    ¬(replay.seenReceipts.size ≠
        (a.snapshot.appliedReceipts.toList.filter fun e => e.2.valueClass = .peerCredit).length ∨
      replay.seenNovations.size ≠ a.snapshot.novations.size ∨
      replay.seenSettlements.size ≠ a.snapshot.backedSettlements.size) ↔
      ∀ x, a.Keeps x → ∃ e ∈ events, e.record = x := by
  have hkeeps := ht.log.keeps
  have hreceipts := BTreeMap.size_eq_filter_iff (t := replay.seenReceipts) (m := a.appliedReceipts)
    (p := fun r => r.valueClass = .peerCredit) fun id hid => by
      obtain ⟨e, he, hr⟩ := (ht.receipts id).mp hid
      have hk := hkeeps e he
      rw [hr] at hk
      simpa [Keeps] using hk
  have hnovations := BTreeMap.size_eq_size_iff (t := replay.seenNovations) (m := a.novations)
    fun id hid => by
      obtain ⟨e, he, hr⟩ := (ht.novations id).mp hid
      have hk := hkeeps e he
      rwa [hr] at hk
  have hsettlements := BTreeMap.size_eq_size_iff (t := replay.seenSettlements)
    (m := a.backedSettlements) fun id hid => by
      obtain ⟨e, he, hr⟩ := (ht.settlements id).mp hid
      have hk := hkeeps e he
      rwa [hr] at hk
  simp only [not_or, ne_eq, not_not]
  change replay.seenReceipts.size = (a.appliedReceipts.toList.filter _).length ∧
    replay.seenNovations.size = a.novations.size ∧
    replay.seenSettlements.size = a.backedSettlements.size ↔ _
  rw [hreceipts, hnovations, hsettlements]
  constructor
  · intro h x hx
    obtain ⟨hr, hn, hs⟩ := h
    cases x with
    | receipt id =>
      obtain ⟨r, hid, hp⟩ := hx
      exact (ht.receipts id).mp (hr id r hid (by simpa using hp))
    | novation id => exact (ht.novations id).mp (hn id hx)
    | backedSettlement id => exact (ht.settlements id).mp (hs id hx)
  · intro h
    refine ⟨fun id r hid hp => ?_, fun id hid => ?_, fun id hid => ?_⟩
    · exact (ht.receipts id).mpr (h (.receipt id) ⟨r, hid, by simpa using hp⟩)
    · exact (ht.novations id).mpr (h (.novation id) hid)
    · exact (ht.settlements id).mpr (h (.backedSettlement id) hid)

theorem ledgers_iff (ht : Tracks a events replay) :
    ¬(replay.ledgers.toList.any (fun (issuer, ledger) =>
        a.snapshot.issuers[issuer]?.any fun stored =>
          ledger.outstandingSat ≠ stored.peerCredit.outstandingSat ||
            ledger.offlineOutstandingSat ≠ stored.peerCredit.offlineOutstandingSat) = true) ↔
      replay.ledgers = a.issuers.map fun _ s => s.peerCredit := by
  have hstored : ∀ i : String, a.snapshot.issuers[i]? = a.issuers[i]?.map .ofState := by
    intro i
    simp [snapshot]
  constructor
  · intro h
    apply Std.ExtTreeMap.ext_getElem?
    intro i
    have hmem := ht.log.mem_iff i
    rw [Std.ExtTreeMap.mem_iff_isSome_getElem?, Std.ExtTreeMap.mem_iff_isSome_getElem?] at hmem
    cases hs : a.issuers[i]? with
    | none =>
      rw [hs] at hmem
      simpa [hs] using hmem
    | some s =>
      rw [hs] at hmem
      obtain ⟨l, hl⟩ := Option.isSome_iff_exists.mp (hmem.mpr rfl)
      have hsame : ¬(l.outstandingSat ≠ s.peerCredit.outstandingSat ∨
          l.offlineOutstandingSat ≠ s.peerCredit.offlineOutstandingSat) := by
        intro hne
        apply h
        refine List.any_eq_true.mpr ⟨(i, l), BTreeMap.mem_entries.mpr hl, ?_⟩
        simpa [hstored, hs, IssuerSnapshotV1.ofState] using hne
      simp only [not_or, ne_eq, not_not] at hsame
      have heq : l = s.peerCredit := by
        cases l
        cases hp : s.peerCredit
        simp_all
      simp [hl, hs, heq]
  · intro h hany
    obtain ⟨⟨i, l⟩, hl, hne⟩ := List.any_eq_true.mp hany
    rw [BTreeMap.mem_entries, h, Std.ExtTreeMap.getElem?_map, Option.map_eq_some_iff] at hl
    obtain ⟨s, hs, rfl⟩ := hl
    simp [hstored, hs, IssuerSnapshotV1.ofState] at hne

theorem validatePeerCreditEvents_eq_ok :
    a.snapshot.validatePeerCreditEvents = .ok () ↔
      Log a a.peerCreditEvents (a.issuers.map fun _ s => s.peerCredit) ∧
        (∀ x, a.Keeps x → ∃ e ∈ a.peerCreditEvents, e.record = x) ∧
        ∀ e ∈ a.peerCreditEvents, e.revision ≤ a.revision := by
  simp only [validatePeerCreditEvents, Except.bind_eq_ok]
  simp only [rejectIf_eq_ok, exists_const]
  constructor
  · intro h
    obtain ⟨replay, hreplay, hcoverage, hledgers⟩ := h
    have ht : Tracks a a.peerCreditEvents replay := tracks_foldlM tracks_start hreplay
    have hsame := (ledgers_iff ht).mp hledgers
    exact ⟨hsame ▸ ht.log, (coverage_iff ht).mp hcoverage, ht.dated⟩
  · intro h
    obtain ⟨hlog, hcovered, hdated⟩ := h
    obtain ⟨replay, hreplay⟩ := foldlM_exists hlog hdated
    have ht : Tracks a a.peerCreditEvents replay := tracks_foldlM tracks_start hreplay
    exact ⟨replay, hreplay, (coverage_iff ht).mpr hcovered,
      (ledgers_iff ht).mpr (ht.log.functional hlog)⟩

end CreditAccountSnapshotV1
end CashuService

import CashuService.Credit.Revision
set_option autoImplicit false

namespace CashuService

open CreditAccount CreditAccountSnapshotV1

/-- An applied operation appends to the log events that are dated after the account it met. -/
theorem Applied.appends {a a' : CreditAccount} {op : Operation} {r : Response}
    (h : Applied a op r a') : ∃ events, a'.peerCreditEvents = a.peerCreditEvents ++ events ∧
      ∀ e ∈ events, a.revision < e.revision := by
  have hnext := h.revision_eq
  have hlater : a.revision < a'.revision := UInt64.lt_iff_toNat_lt.mpr (by omega)
  cases h with
  | @receipt c auth mode now revision =>
    refine ⟨receiptEvents c mode revision, rfl, ?_⟩
    by_cases hclass : c.valueClass = .peerCredit
    · simpa [receiptEvents, hclass, PeerCreditEvent.revision] using hlater
    · simp [receiptEvents, hclass]
  | novation => exact ⟨_, rfl, by simpa [PeerCreditEvent.revision] using hlater⟩
  | backed => exact ⟨_, rfl, by simpa [PeerCreditEvent.revision] using hlater⟩
  | _ => exact ⟨[], (List.append_nil _).symm, by simp⟩

namespace CreditAccount

variable {a b : CreditAccount}

theorem after_appends (a : CreditAccount) (ops : List Operation) :
    ∃ events, (a.after ops).peerCreditEvents = a.peerCreditEvents ++ events ∧
      ∀ e ∈ events, a.revision < e.revision := by
  induction ops generalizing a with
  | nil => exact ⟨[], (List.append_nil _).symm, by simp⟩
  | cons op ops ih =>
    obtain ⟨later, hlater, hdated⟩ := ih (op.exec a)
    have hstep : ∃ events, (op.exec a).peerCreditEvents = a.peerCreditEvents ++ events ∧
        ∀ e ∈ events, a.revision < e.revision := by
      rcases op.exec_cases a with hsame | ⟨_, _, happlied⟩
      · exact ⟨[], by rw [hsame, List.append_nil], by simp⟩
      · exact happlied.appends
    obtain ⟨first, hfirst, hdated'⟩ := hstep
    have hgrows := UInt64.le_iff_toNat_le.mpr (op.exec_grows a).revision
    refine ⟨first ++ later, ?_, ?_⟩
    · rw [← List.append_assoc, ← hfirst]
      exact hlater
    · intro e he
      rcases List.mem_append.mp he with he | he
      · exact hdated' e he
      · exact UInt64.lt_of_le_of_lt hgrows (hdated e he)

theorem events_until (hc : a.Coherent) (ops : List Operation) :
    (a.after ops).peerCreditEvents.filter (fun e => e.revision ≤ a.revision) =
      a.peerCreditEvents := by
  obtain ⟨later, hlater, hdated⟩ := after_appends a ops
  have hold : a.peerCreditEvents.filter (fun e => e.revision ≤ a.revision) =
      a.peerCreditEvents :=
    List.filter_eq_self.mpr fun e he => by simpa using hc.dated e he
  have hnew : later.filter (fun e => e.revision ≤ a.revision) = [] :=
    List.filter_eq_nil_iff.mpr fun e he => by simpa using hdated e he
  rw [hlater, List.filter_append, hold, hnew, List.append_nil]

theorem Log.distinct {events : List PeerCreditEvent}
    {ledgers : BTreeMap String PeerCreditLedger} (h : Log a events ledgers) :
    (events.map PeerCreditEvent.record).Nodup := by
  induction h with
  | nil => exact .nil
  | @snoc events event entries ledgers ledgers' prior positive later fresh explained entered ih =>
    rw [List.map_append, List.nodup_append]
    refine ⟨ih, List.nodup_singleton _, ?_⟩
    intro x hx y hy
    obtain ⟨e, he, rfl⟩ := List.mem_map.mp hx
    rw [List.map_singleton, List.mem_singleton] at hy
    subst hy
    exact fresh e he

/-- The replay of a restart, over the events of a later account that are dated up to the revision
of an earlier one, ends in the peer ledgers the earlier account had. -/
theorem replay_until (hc : a.Coherent) (ops : List Operation) :
    ∃ replay, ((a.after ops).peerCreditEvents.filter fun e => e.revision ≤ a.revision).foldlM
        (a.after ops).snapshot.replayEvent (a.after ops).snapshot.replayStart = .ok replay ∧
      replay.ledgers = a.issuers.map fun _ s => s.peerCredit := by
  have hgrows := a.after_grows ops
  have hlog := hc.log.grows hgrows
  have hle := UInt64.le_iff_toNat_le.mpr hgrows.revision
  have hdated : ∀ e ∈ a.peerCreditEvents, e.revision ≤ (a.after ops).revision := fun e he =>
    UInt64.le_trans (hc.dated e he) hle
  rw [events_until hc ops]
  obtain ⟨replay, hreplay⟩ := foldlM_exists hlog hdated
  have ht : Tracks (a.after ops) a.peerCreditEvents replay := tracks_foldlM tracks_start hreplay
  exact ⟨replay, hreplay, ht.log.functional hlog⟩

/-- The peer-credit event log is the history: replaying it up to any revision a run passed
through gives the peer ledgers of that moment, and it names every retained record of peer credit
once and nothing else. -/
theorem log_is_history {policy : AccountPolicy} (h : new policy = .ok a) (ops : List Operation) :
    (∀ n, ∃ replay,
      ((a.after ops).peerCreditEvents.filter fun e =>
          e.revision ≤ (a.after (ops.take n)).revision).foldlM
        (a.after ops).snapshot.replayEvent (a.after ops).snapshot.replayStart = .ok replay ∧
      replay.ledgers = (a.after (ops.take n)).issuers.map fun _ s => s.peerCredit) ∧
    ((a.after ops).peerCreditEvents.map PeerCreditEvent.record).Nodup ∧
    ∀ x, x ∈ (a.after ops).peerCreditEvents.map PeerCreditEvent.record ↔ (a.after ops).Keeps x := by
  have hc := (new_coherent h).after ops
  refine ⟨?_, hc.log.distinct, ?_⟩
  · intro n
    have hmoment := (new_coherent h).after (ops.take n)
    have hreplay := replay_until hmoment (ops.drop n)
    rwa [← after_append, List.take_append_drop] at hreplay
  · intro x
    rw [List.mem_map]
    constructor
    · intro hx
      obtain ⟨e, he, hrecord⟩ := hx
      exact hrecord ▸ hc.log.keeps e he
    · exact hc.covered x

theorem log_is_history_sample :
    ((sampleAccount.after sampleOperations).peerCreditEvents.map
      PeerCreditEvent.record).Nodup :=
  (log_is_history sampleAccount_new sampleOperations).2.1

end CreditAccount
end CashuService

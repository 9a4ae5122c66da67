import CashuService.Credit.Runs
set_option autoImplicit false

namespace CashuService
namespace CreditAccount

variable {a : CreditAccount} {op : Operation}

theorem exec_ne_iff (a : CreditAccount) (op : Operation) :
    op.exec a ≠ a ↔ a.revision < (op.exec a).revision := by
  rw [UInt64.lt_iff_toNat_lt]
  rcases op.exec_cases a with h | ⟨r, _, happlied⟩
  · simp [h]
  · have hnext := happlied.revision_eq
    constructor
    · intro _
      omega
    · intro _ hsame
      rw [hsame] at hnext
      omega

theorem exec_revision (h : op.exec a ≠ a) :
    (op.exec a).revision.toNat = a.revision.toNat + 1 := by
  rcases op.exec_cases a with hsame | ⟨r, _, happlied⟩
  · exact absurd hsame h
  · exact happlied.revision_eq

theorem after_eq_of_revision (ops : List Operation)
    (h : (a.after ops).revision = a.revision) : a.after ops = a := by
  induction ops generalizing a with
  | nil => rfl
  | cons op ops ih =>
    have hrest := ((op.exec a).after_grows ops).revision
    have hsame : op.exec a = a := by
      by_contra hne
      have hnext := exec_revision hne
      have hend : ((op.exec a).after ops).revision.toNat = a.revision.toNat :=
        congrArg UInt64.toNat h
      omega
    have hstep : a.after (op :: ops) = (op.exec a).after ops := rfl
    rw [hstep, hsame] at h ⊢
    exact ih h

theorem after_take_le {m n : Nat} (h : m ≤ n) (ops : List Operation) :
    ∃ rest, a.after (ops.take n) = (a.after (ops.take m)).after rest := by
  refine ⟨(ops.take n).drop m, ?_⟩
  rw [← after_append]
  congr 1
  have hm : ops.take m = (ops.take n).take m := by rw [List.take_take, Nat.min_eq_left h]
  rw [hm, List.take_append_drop]

/-- Two points of one run are the same account exactly when they have the same revision. -/
theorem revision_eq_iff (a : CreditAccount) (ops : List Operation) (m n : Nat) :
    (a.after (ops.take m)).revision = (a.after (ops.take n)).revision ↔
      a.after (ops.take m) = a.after (ops.take n) := by
  constructor
  · intro h
    rcases Nat.le_total m n with hle | hle
    · obtain ⟨rest, hrest⟩ := after_take_le (a := a) hle ops
      rw [hrest] at h ⊢
      exact (after_eq_of_revision rest h.symm).symm
    · obtain ⟨rest, hrest⟩ := after_take_le (a := a) hle ops
      rw [hrest] at h ⊢
      exact after_eq_of_revision rest h
  · intro h
    rw [h]

theorem Log.increasing {events : List PeerCreditEvent}
    {ledgers : BTreeMap String PeerCreditLedger} (h : Log a events ledgers) :
    events.Pairwise fun e e' => e.revision < e'.revision := by
  induction h with
  | nil => exact .nil
  | snoc prior positive later fresh explained entered ih =>
    rw [List.pairwise_append]
    exact ⟨ih, List.pairwise_singleton _ _, by simpa using later⟩

/-- What the revision says about an account. -/
structure RevisionCounts (a : CreditAccount) : Prop where
  count : a.revision.toNat = a.operationCount
  increasing : a.peerCreditEvents.Pairwise fun e e' => e.revision < e'.revision
  dated : ∀ e ∈ a.peerCreditEvents, 0 < e.revision ∧ e.revision ≤ a.revision

theorem Coherent.revisionCounts (hc : a.Coherent) : a.RevisionCounts :=
  ⟨hc.revision, hc.log.increasing, fun e he => ⟨(hc.log.event e he).1, hc.dated e he⟩⟩

/-- The revision identifies the state of a run. -/
theorem revision_identifies {policy : AccountPolicy} (h : new policy = .ok a)
    (ops : List Operation) :
    (∀ op : Operation, (op.exec (a.after ops) ≠ a.after ops ↔
        (a.after ops).revision < (op.exec (a.after ops)).revision) ∧
      (op.exec (a.after ops) ≠ a.after ops →
        (op.exec (a.after ops)).revision.toNat = (a.after ops).revision.toNat + 1)) ∧
    (∀ m n, (a.after (ops.take m)).revision = (a.after (ops.take n)).revision ↔
      a.after (ops.take m) = a.after (ops.take n)) ∧
    (a.after ops).RevisionCounts := by
  refine ⟨fun op => ⟨exec_ne_iff _ op, exec_revision⟩, revision_eq_iff a ops, ?_⟩
  exact ((new_coherent h).after ops).revisionCounts

theorem revision_identifies_sample :
    (sampleAccount.after sampleOperations).RevisionCounts :=
  (revision_identifies sampleAccount_new sampleOperations).2.2

end CreditAccount
end CashuService

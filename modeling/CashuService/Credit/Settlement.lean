import CashuService.Credit.Runs
set_option autoImplicit false

namespace CashuService
namespace CreditAccount

variable {a : CreditAccount}

/-- `spent` leaves the pending balance of issuer `i` as settled and `unused` returns to its
redeemable balance; no other ledger is touched. -/
structure Releases (a : CreditAccount) (i : String) (spent unused : Nat) (a' : CreditAccount) :
    Prop where
  issuer : ∃ s l, a.issuers[i]? = some s ∧ a'.issuers[i]? = some { s with withdrawable := l } ∧
    s.withdrawable.Released spent unused l
  others : ∀ k : String, k ≠ i → a'.issuers[k]? = a.issuers[k]?

theorem releases_of_posted {i : String} {spent unused : Nat} {a' : CreditAccount}
    (h : Posted a.issuers [(i, .release spent unused)] a'.issuers) :
    a.Releases i spent unused a' := by
  generalize hm : a'.issuers = m' at h
  cases h with
  | @cons _ _ _ _ _ s s' hs hrelease rest =>
    cases rest
    cases hrelease with
    | @release _ _ l step =>
      refine ⟨⟨s, l, hs, ?_, step⟩, ?_⟩
      · rw [hm, BTreeMap.getElem?_modify_self, hs]
        rfl
      · intro k hk
        rw [hm, BTreeMap.getElem?_modify_ne _ _ hk.symm]

/-- The reservation of a pending settlement is part of its issuer's pending balance. -/
theorem Coherent.reserved_le (hc : a.Coherent) {id : String} {x : SettlementRecord}
    (hx : a.settlements[id]? = some x) (hpending : x.state = .pending) :
    ∃ s, a.issuers[x.request.issuer]? = some s ∧
      x.authorization.reservedSat.toNat ≤ s.withdrawable.pendingExternalSat.toNat := by
  have hk := hc.settlements id x hx
  obtain ⟨s, hs⟩ := BTreeMap.mem_iff_exists.mp hk.issuer
  have hrec := hc.reconciled _ s hs .pending
  have hle := BTreeMap.le_sumOf
    (fun y : SettlementRecord => if y.request.issuer = x.request.issuer then y.held else 0) hx
  simp only [if_true, SettlementRecord.held, hpending] at hle
  simp only [Balance.of, Balance.debits, Balance.credits, heldFor, SettlementRecord.held] at hrec
  exact ⟨s, hs, by omega⟩

theorem nextRevision_exists (h : a.revision.toNat < 2 ^ 64 - 1) :
    ∃ revision, a.nextRevision = .ok revision := by
  have hone : (1 : UInt64).toNat = 1 := rfl
  have hfits : a.revision.toNat + (1 : UInt64).toNat < 2 ^ 64 := by omega
  exact ⟨_, okOr_eq_ok.mpr (UInt64.checkedAdd_of_fits hfits)⟩

/-- An in-place method that cannot fail for its issuer cannot fail for the account. -/
theorem issuerMut_cannotFail {i : String} {s : IssuerState}
    {method : EStateM CreditError IssuerState Unit} (hs : a.issuers[i]? = some s)
    (h : CannotFail method s) : CannotFail (issuerMut i method) a := by
  obtain ⟨_, s', hmethod, _⟩ := h.exists_ok
  simp only [CannotFail, Ends, issuerMut, hs, hmethod]

section

variable {id : String} {x : SettlementRecord} (hc : a.Coherent)
  (hx : a.settlements[id]? = some x) (hpending : x.state = .pending)
  (hrevision : a.revision.toNat < 2 ^ 64 - 1)

include hc hx hpending hrevision

/-- Completing within the fee ceiling cannot fail: the pending balance covers the reservation
and the settled balance stays below what was deposited. -/
theorem complete_progress {fee : UInt64} (hfee : fee ≤ x.request.maxFeeSat) :
    ∃ a', completeExternalSettlement id fee a = .ok () a' := by
  obtain ⟨s, hs, hreserved⟩ := hc.reserved_le hx hpending
  have hreserve := (hc.settlements id x hx).reserve
  have hconserved := (hc.sound _ s hs).withdrawableConserved
  have hdeposited := s.withdrawable.totalDepositedSat.toNat_lt
  have hle := UInt64.le_iff_toNat_le.mp hfee
  obtain ⟨revision, hnext⟩ := nextRevision_exists hrevision
  have hfits : x.request.amountSat.toNat + fee.toNat < 2 ^ 64 := by omega
  have hspent := UInt64.checkedAdd_of_fits hfits
  have hspentNat := UInt64.checkedAdd_eq_some.mp hspent
  obtain ⟨l, hl, hcompleted⟩ := (WithdrawableReserveLedger.complete_ends s.withdrawable
    (x.request.amountSat + fee)).exists_onClone fun _ _ h => by omega
  have hredeemable := hcompleted.redeemable
  have hpend := hcompleted.pending
  have hunused := UInt64.toNat_sub_of_le _ _ hfee
  obtain ⟨l', hl', _⟩ := (WithdrawableReserveLedger.cancel_ends l
    (x.request.maxFeeSat - fee)).exists_onClone fun _ _ h => by omega
  have hends : CannotFail (completeExternalSettlement id fee) a := by
    refine .get_bind (.attempt_ok_bind (okOr_eq_ok.mpr hx) ?_)
    simp only [hpending]
    refine .attempt_ok_bind (a := ()) (rejectIf_eq_ok.mpr (UInt64.not_lt.mpr hfee)) (.get_bind
      (.attempt_ok_bind hnext (.attempt_ok_bind (okOr_eq_ok.mpr hspent) (.get_bind
        (.attempt_ok_bind (a := if 0 < x.request.maxFeeSat - fee then l' else l) ?_ ?_)))))
    · simp only [Except.bind_eq_ok, issuer_eq_ok]
      refine ⟨s, hs, l, hl, ?_⟩
      split
      · exact hl'
      · rfl
    · exact (issuerMut_commit hs).seq fun _ _ _ => .modify_bind (.modify trivial)
  obtain ⟨_, a', ha', _⟩ := hends.exists_ok
  exact ⟨a', ha'⟩

theorem cancel_progress : ∃ a', cancelExternalSettlement id a = .ok () a' := by
  obtain ⟨s, hs, hreserved⟩ := hc.reserved_le hx hpending
  have hconserved := (hc.sound _ s hs).withdrawableConserved
  have hdeposited := s.withdrawable.totalDepositedSat.toNat_lt
  obtain ⟨revision, hnext⟩ := nextRevision_exists hrevision
  have hmethod : CannotFail (IssuerState.withdrawableMut
      (WithdrawableReserveLedger.cancel x.authorization.reservedSat)) s :=
    .zoom ((WithdrawableReserveLedger.cancel_ends _ _).imp (fun _ _ h => by omega)
      fun _ _ _ => trivial)
  have hends : CannotFail (cancelExternalSettlement id) a := by
    refine .get_bind (.attempt_ok_bind (okOr_eq_ok.mpr hx) ?_)
    simp only [hpending]
    exact .get_bind (.attempt_ok_bind hnext ((issuerMut_cannotFail hs hmethod).seq fun _ _ _ =>
      .modify_bind (.modify trivial)))
  obtain ⟨_, a', ha', _⟩ := hends.exists_ok
  exact ⟨a', ha'⟩

end

theorem complete_fee_exceeded {id : String} {x : SettlementRecord} {fee : UInt64}
    (hx : a.settlements[id]? = some x) (hpending : x.state = .pending)
    (hfee : x.request.maxFeeSat < fee) :
    completeExternalSettlement id fee a = .error .settlementFeeExceeded a := by
  have hends : Ends (completeExternalSettlement id fee) a
      (fun e a' => e = .settlementFeeExceeded ∧ a' = a) fun _ _ => False := by
    refine .get_bind (.attempt_bind (fun e he => by simp [hx, okOr] at he) fun y hy => ?_)
    rw [okOr_eq_ok, hx, Option.some.injEq] at hy
    subst hy
    simp only [hpending]
    refine .attempt_bind (fun e he => ?_) fun _ hok => absurd hfee (rejectIf_eq_ok.mp hok)
    simp only [rejectIf, hfee, if_true, Except.error.injEq] at he
    exact ⟨he.symm, rfl⟩
  obtain ⟨e, a', ha', rfl, rfl⟩ := hends.exists_error
  exact ha'

theorem complete_effect {id : String} {x : SettlementRecord} {fee : UInt64} {a' : CreditAccount}
    (hx : a.settlements[id]? = some x) (hpending : x.state = .pending)
    (h : completeExternalSettlement id fee a = .ok () a') :
    a'.settlements[id]? = some { x with state := .completed fee } ∧
      a.Releases x.request.issuer (x.request.amountSat.toNat + fee.toNat)
        (x.request.maxFeeSat.toNat - fee.toNat) a' := by
  rcases (completeExternalSettlement_ends a id fee).of_ok h with ⟨_, hreplayed⟩ | happlied
  · cases hreplayed with
    | completion stored state =>
      rw [hx, Option.some.injEq] at stored
      subst stored
      simp [hpending] at state
  · cases happlied with
    | completion stored state fits next posted =>
      rw [hx, Option.some.injEq] at stored
      subst stored
      exact ⟨by simp [hx], releases_of_posted posted⟩

theorem cancel_effect {id : String} {x : SettlementRecord} {a' : CreditAccount}
    (hx : a.settlements[id]? = some x) (hpending : x.state = .pending)
    (h : cancelExternalSettlement id a = .ok () a') :
    a'.settlements[id]? = some { x with state := .cancelled } ∧
      a.Releases x.request.issuer 0 x.authorization.reservedSat.toNat a' := by
  rcases (cancelExternalSettlement_ends a id).of_ok h with ⟨_, hreplayed⟩ | happlied
  · cases hreplayed with
    | cancellation stored state =>
      rw [hx, Option.some.injEq] at stored
      subst stored
      simp [hpending] at state
  · cases happlied with
    | cancellation stored state next posted =>
      rw [hx, Option.some.injEq] at stored
      subst stored
      exact ⟨by simp [hx], releases_of_posted posted⟩

theorem Grows.decided {b : CreditAccount} (h : a.Grows b) {id : String} {x : SettlementRecord}
    (hx : a.settlements[id]? = some x) (hdecided : x.state ≠ .pending) :
    b.settlements[id]? = some x := by
  obtain ⟨y, hy, hfollows⟩ := h.settlements id x hx
  have hstate := hfollows.state.resolve_left hdecided
  obtain ⟨request, authorization, state⟩ := x
  obtain ⟨request', authorization', state'⟩ := y
  have hrequest := hfollows.request
  have hauthorization := hfollows.authorization
  simp only at hrequest hauthorization hstate
  rw [hy, hrequest, hauthorization, hstate]

theorem decide_again {id : String} {x : SettlementRecord} (hx : a.settlements[id]? = some x)
    (hdecided : x.state ≠ .pending) (fee : UInt64) :
    (Operation.completeExternalSettlement id fee).exec a = a ∧
      (Operation.cancelExternalSettlement id).exec a = a := by
  constructor
  · rcases (Operation.completeExternalSettlement id fee).exec_cases a with h | ⟨r, _, happlied⟩
    · exact h
    · generalize (Operation.completeExternalSettlement id fee).exec a = a' at happlied
      cases happlied with
      | completion stored state =>
        rw [hx, Option.some.injEq] at stored
        subst stored
        exact absurd state hdecided
  · rcases (Operation.cancelExternalSettlement id).exec_cases a with h | ⟨r, _, happlied⟩
    · exact h
    · generalize (Operation.cancelExternalSettlement id).exec a = a' at happlied
      cases happlied with
      | cancellation stored state =>
        rw [hx, Option.some.injEq] at stored
        subst stored
        exact absurd state hdecided

theorem authorize_again {q : ExternalSettlementRequest} {x : SettlementRecord}
    (hx : a.settlements[q.settlementId]? = some x) (hdecided : x.state ≠ .pending) (auth : String)
    (now : UInt64) : ∃ e, authorizeExternalSettlement q auth now a = .error e a := by
  have hends := authorizeExternalSettlement_ends a q auth now
  cases hr : authorizeExternalSettlement q auth now a with
  | error e a' =>
    have ha := hends.of_error hr
    subst ha
    exact ⟨e, rfl⟩
  | ok z a' =>
    rcases hends.of_ok hr with ⟨_, hreplayed⟩ | happlied
    · cases hreplayed with
      | authorization identity stored =>
        rw [hx, Option.some.injEq] at stored
        subst stored
        exact absurd rfl hdecided
    · cases happlied with
      | authorization fresh => simp [hx] at fresh

theorem mem_pending {z : ExternalSettlementAuthorization} :
    z ∈ a.pendingExternalSettlementAuthorizations ↔
      ∃ (id : String) (x : SettlementRecord), a.settlements[id]? = some x ∧
        x.state = .pending ∧ x.authorization = z := by
  simp only [pendingExternalSettlementAuthorizations, List.mem_filterMap, Prod.exists,
    BTreeMap.mem_entries]
  constructor
  · intro h
    obtain ⟨id, x, hx, hz⟩ := h
    by_cases hp : x.state = .pending
    · rw [if_pos hp, Option.some.injEq] at hz
      exact ⟨id, x, hx, hp, hz⟩
    · simp [hp] at hz
  · intro h
    obtain ⟨id, x, hx, hp, hz⟩ := h
    exact ⟨id, x, hx, by rw [if_pos hp, hz]⟩

theorem authorizationId_of_kept {p : Relationship} {k : String}
    {x : SettlementRecord} (hk : x.Kept p k) : x.authorization.settlementId = k := by
  rw [hk.authorization, hk.keyed]
  rfl

theorem Coherent.pending_ordered (hc : a.Coherent) :
    a.pendingExternalSettlementAuthorizations.Pairwise
      fun z z' => compare z.settlementId z'.settlementId = .lt := by
  unfold pendingExternalSettlementAuthorizations
  rw [List.pairwise_filterMap]
  apply Std.ExtTreeMap.ordered_keys_toList.imp_of_mem
  intro e e' he he' hlt z hz z' hz'
  have hk := authorizationId_of_kept (hc.settlements e.1 e.2 (BTreeMap.mem_entries.mp he))
  have hk' := authorizationId_of_kept (hc.settlements e'.1 e'.2 (BTreeMap.mem_entries.mp he'))
  have hauth : e.2.authorization = z := by
    by_cases hp : e.2.state = .pending <;> simp_all
  have hauth' : e'.2.authorization = z' := by
    by_cases hp : e'.2.state = .pending <;> simp_all
  rwa [← hauth, ← hauth', hk, hk']

theorem authorize_record {q : ExternalSettlementRequest} {auth : String} {now : UInt64}
    {z : ExternalSettlementAuthorization} {a' : CreditAccount}
    (h : authorizeExternalSettlement q auth now a = .ok z a') :
    a'.settlements[q.settlementId]? = some ⟨q, z, .pending⟩ := by
  rcases (authorizeExternalSettlement_ends a q auth now).of_ok h with ⟨rfl, hreplayed⟩ | happlied
  · cases hreplayed with
    | authorization identity stored => exact stored
  · cases happlied with
    | authorization fresh valid next reserve posted =>
      exact BTreeMap.getElem?_insert_self _ _ _

/-- An issued authorization stays what it is, and it is listed as long as it is not decided. -/
theorem issued_listed {b : CreditAccount} {q : ExternalSettlementRequest}
    {z : ExternalSettlementAuthorization} (hg : a.Grows b) (hc : b.Coherent)
    (h : a.settlements[q.settlementId]? = some ⟨q, z, .pending⟩) :
    ∃ y, b.settlements[q.settlementId]? = some y ∧ y.request = q ∧ y.authorization = z ∧
      (z ∈ b.pendingExternalSettlementAuthorizations ↔ y.state = .pending) := by
  obtain ⟨y, hy, hfollows⟩ := hg.settlements _ _ h
  have hid := authorizationId_of_kept (hc.settlements _ y hy)
  have hauthorization : y.authorization = z := hfollows.authorization
  refine ⟨y, hy, hfollows.request, hauthorization, ?_⟩
  rw [mem_pending]
  constructor
  · intro hz
    obtain ⟨id, x, hx, hp, hsame⟩ := hz
    have hid' := authorizationId_of_kept (hc.settlements id x hx)
    rw [hsame, ← hauthorization, hid] at hid'
    rw [← hid', hy, Option.some.injEq] at hx
    rwa [hx]
  · intro hp
    exact ⟨_, y, hy, hp, hauthorization⟩

/-- The life of external settlements. A pending one can be completed with every fee up to its
ceiling and can be cancelled, with exactly the movements of its reservation. A decided one never
changes again. The pending list has exactly the undecided authorizations, in order. -/
theorem settlement_lifecycle (h : a.Reachable) :
    (∀ id x, a.settlements[id]? = some x → x.state = .pending →
      a.revision.toNat < 2 ^ 64 - 1 →
        (∀ fee, fee ≤ x.request.maxFeeSat →
          ∃ a', completeExternalSettlement id fee a = .ok () a' ∧
            a'.settlements[id]? = some { x with state := .completed fee } ∧
            a.Releases x.request.issuer (x.request.amountSat.toNat + fee.toNat)
              (x.request.maxFeeSat.toNat - fee.toNat) a') ∧
        (∀ fee, x.request.maxFeeSat < fee →
          completeExternalSettlement id fee a = .error .settlementFeeExceeded a) ∧
        ∃ a', cancelExternalSettlement id a = .ok () a' ∧
          a'.settlements[id]? = some { x with state := .cancelled } ∧
          a.Releases x.request.issuer 0 x.authorization.reservedSat.toNat a') ∧
    (∀ id x ops, a.settlements[id]? = some x → x.state ≠ .pending →
      (a.after ops).settlements[id]? = some x ∧
        (∀ fee, (Operation.completeExternalSettlement id fee).exec (a.after ops) =
          a.after ops) ∧
        (Operation.cancelExternalSettlement id).exec (a.after ops) = a.after ops ∧
        ∀ q auth now, q.settlementId = id →
          ∃ e, authorizeExternalSettlement q auth now (a.after ops) =
            .error e (a.after ops)) ∧
    (a.pendingExternalSettlementAuthorizations.Pairwise
      fun z z' => compare z.settlementId z'.settlementId = .lt) ∧
    (∀ z, z ∈ a.pendingExternalSettlementAuthorizations ↔
      ∃ (id : String) (x : SettlementRecord), a.settlements[id]? = some x ∧
        x.state = .pending ∧ x.authorization = z) ∧
    ∀ q auth now z a', authorizeExternalSettlement q auth now a = .ok z a' → ∀ ops,
      ∃ y, (a'.after ops).settlements[q.settlementId]? = some y ∧ y.request = q ∧
        y.authorization = z ∧
        (z ∈ (a'.after ops).pendingExternalSettlementAuthorizations ↔ y.state = .pending) := by
  have hc := h.coherent
  refine ⟨?_, ?_, hc.pending_ordered, fun z => mem_pending, ?_⟩
  · intro id x hx hpending hrevision
    refine ⟨fun fee hfee => ?_, fun fee hfee => complete_fee_exceeded hx hpending hfee, ?_⟩
    · obtain ⟨a', ha'⟩ := complete_progress hc hx hpending hrevision hfee
      exact ⟨a', ha', complete_effect hx hpending ha'⟩
    · obtain ⟨a', ha'⟩ := cancel_progress hc hx hpending hrevision
      exact ⟨a', ha', cancel_effect hx hpending ha'⟩
  · intro id x ops hx hdecided
    have hlater := (a.after_grows ops).decided hx hdecided
    refine ⟨hlater, fun fee => (decide_again hlater hdecided fee).1,
      (decide_again hlater hdecided 0).2, ?_⟩
    intro q auth now hid
    subst hid
    exact authorize_again hlater hdecided auth now
  · intro q auth now z a' hz ops
    have ha' : (Operation.authorizeExternalSettlement q auth now).exec a = a' := by
      simp only [Operation.exec, Operation.run, bind, EStateM.bind, hz]
      rfl
    have hreach := (h.exec (.authorizeExternalSettlement q auth now)).after ops
    rw [ha'] at hreach
    exact issued_listed (a'.after_grows ops) hreach.coherent (authorize_record hz)

theorem settlement_lifecycle_sample :
    ∃ a', completeExternalSettlement "s2" 2 (sampleAccount.after sampleOperations) = .ok () a' ∧
      (sampleAccount.after sampleOperations).Releases "alpha" 12 0 a' := by
  have hx : (sampleAccount.after sampleOperations).settlements["s2"]? =
      some ⟨sampleRequest "s2", authorizationFor (sampleRequest "s2") 12 15, .pending⟩ := by
    decide +kernel
  have hrevision : (sampleAccount.after sampleOperations).revision.toNat < 2 ^ 64 - 1 := by
    decide +kernel
  obtain ⟨a', ha', _, hreleases⟩ :=
    ((settlement_lifecycle sampleAccount_reachable).1 "s2" _ hx rfl hrevision).1 2 (by decide)
  exact ⟨a', ha', hreleases⟩

end CreditAccount
end CashuService

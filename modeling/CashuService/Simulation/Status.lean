import CashuService.Base.Rounding
import CashuService.Simulation.Conservation
set_option autoImplicit false

namespace CashuService

/-- A call that succeeded, with what it returned. -/
inductive NetworkEvent where
  | invoiced (mintId : String) (amountSat : UInt64) (response : CreateIncomingPaymentResponse)
  | funded (paymentHash : PaymentHash)
  | paid (mintId : String) (response : MakePaymentResponse)
  deriving DecidableEq, Repr

def eventOf {α : Type} (result : EStateM.Result PaymentError NetworkState α)
    (event : α → NetworkEvent) : List NetworkEvent :=
  match result with
  | .ok a _ => [event a]
  | .error _ _ => []

def NetworkEvent.settles : NetworkEvent → Option (PaymentHash × String)
  | invoiced _ _ _ => none
  | funded paymentHash => some (paymentHash, "external")
  | paid mintId response => some (response.paymentLookupId, mintId)

def Invoiced (events : List NetworkEvent) (paymentHash : PaymentHash) (mintId : String)
    (amountSat : UInt64) : Prop :=
  ∃ response, .invoiced mintId amountSat response ∈ events ∧
    response.requestLookupId = paymentHash

def PaidBy (events : List NetworkEvent) (paymentHash : PaymentHash) (mintId : String)
    (response : MakePaymentResponse) : Prop :=
  .paid mintId response ∈ events ∧ response.paymentLookupId = paymentHash

def Paid (events : List NetworkEvent) (paymentHash : PaymentHash) : Prop :=
  .funded paymentHash ∈ events ∨ ∃ mintId response, PaidBy events paymentHash mintId response

namespace PaymentNetwork

variable (self : PaymentNetwork)

def report (w : World) : Call self.lightning.Invoice → List NetworkEvent
  | .createInvoice backend amountSat description requestedExpiry now =>
    match w.backends[backend]? with
    | none => []
    | some payment => eventOf
        (self.createInvoice payment.mintId amountSat description requestedExpiry now w.state)
        (.invoiced payment.mintId amountSat)
  | .settleExternal paymentRequest now =>
    match self.parseInvoice paymentRequest with
    | .error _ => []
    | .ok invoice => eventOf (self.settleExternal paymentRequest now w.state)
        fun _ => .funded (self.lightning.paymentHash invoice)
  | .pay backend unit options now =>
    match w.backends[backend]? with
    | none => []
    | some payment => eventOf (self.pay payment.mintId payment.mode unit options now w.state)
        (.paid payment.mintId)
  | _ => []

def history (w : World) : List (Call self.lightning.Invoice) → List NetworkEvent
  | [] => []
  | call :: calls => self.report w call ++ history (self.step w call) calls

end PaymentNetwork

/-- The status queries of every mint agree with the history. -/
structure StatusesMatch (network : PaymentNetwork) (events : List NetworkEvent)
    (state : NetworkState) : Prop where
  outgoing : ∀ mintId ∈ state.modes, ∀ paymentHash payee amountSat,
    Invoiced events paymentHash payee amountSat →
      ∃ status, outgoingStatus mintId (.paymentHash paymentHash) state = .ok status ∧
        (status.status = .paid ↔ ∃ response, PaidBy events paymentHash mintId response) ∧
        (∀ response, PaidBy events paymentHash mintId response →
          status.totalSpent = response.totalSpent ∧ response.totalSpent.unit = .sat ∧
            response.totalSpent.value.toNat = amountSat.toNat + network.feeSat.toNat) ∧
        (status.status ≠ .paid → status.status = .unpaid ∧ status.totalSpent = ⟨0, .sat⟩)
  incoming : ∀ mintId ∈ state.modes, ∀ paymentHash payee amountSat,
    Invoiced events paymentHash payee amountSat →
      (incomingStatus mintId (.paymentHash paymentHash) state ≠ [] ↔
        mintId = payee ∧ Paid events paymentHash) ∧
      (incomingStatus mintId (.paymentHash paymentHash) state ≠ [] →
        incomingStatus mintId (.paymentHash paymentHash) state =
          [⟨paymentHash, ⟨amountSat, .sat⟩, hexEncode paymentHash.toList⟩])

/-- What a call does to the invoices and to the list of payments, with the event it reports. -/
inductive Reports (self : PaymentNetwork) (w : World) : List NetworkEvent → World → Prop where
  | quiet {w' : World} (invoices : w'.state.invoices = w.state.invoices)
      (payments : w'.payments = w.payments) : Reports self w [] w'
  | invoiced {w' : World} {mintId : String} {record : InvoiceRecord}
      {response : CreateIncomingPaymentResponse}
      (hash : response.requestLookupId = self.paymentHashOf w.state.nextInvoice mintId)
      (created : w'.created = w.created ++ [(w.state.nextInvoice, mintId)])
      (invoices : w'.state.invoices = Function.update w.state.invoices
        (self.paymentHashOf w.state.nextInvoice mintId) (some record))
      (recipient : record.recipientMint = mintId)
      (payments : w'.payments = w.payments) :
    Reports self w [.invoiced mintId record.amountSat response] w'
  | funded {w' : World} {paymentHash : PaymentHash} {record : InvoiceRecord}
      (marks : Marks paymentHash record "external" 0 w.state w'.state)
      (payments : w'.payments = w.payments ++ [(paymentHash, "external")]) :
    Reports self w [.funded paymentHash] w'
  | paid {w' : World} {mintId : String} {record : InvoiceRecord} {response : MakePaymentResponse}
      (marks : Marks response.paymentLookupId record mintId self.feeSat w.state w'.state)
      (payments : w'.payments = w.payments ++ [(response.paymentLookupId, mintId)])
      (unit : response.totalSpent.unit = .sat)
      (total : response.totalSpent.value.toNat = record.amountSat.toNat + self.feeSat.toNat) :
    Reports self w [.paid mintId response] w'

namespace PaymentNetwork

variable {self : PaymentNetwork}

def RegistersOnly (call : Call self.lightning.Invoice) (w w' : World) : Prop :=
  ∀ mintId ∈ w'.state.modes, mintId ∈ w.state.modes ∨ ∃ mode, call = .paymentBackend mintId mode

theorem RegistersOnly.same {call : Call self.lightning.Invoice} {w w' : World}
    (h : w'.state.modes = w.state.modes) : RegistersOnly call w w' :=
  fun _ hm => .inl (h ▸ hm)

theorem apply_reports (call : Call self.lightning.Invoice) (w : World) :
    Ends (self.apply call) w
      (fun _ w' => Reports self w (self.report w call) w' ∧ RegistersOnly call w w')
      fun _ w' => Reports self w (self.report w call) w' ∧ RegistersOnly call w w' := by
  have hidle (s' : NetworkState) (h : Idle w.state s') :
      Reports self w [] { w with state := s' } ∧ RegistersOnly call w { w with state := s' } := by
    refine ⟨.quiet h.sameValue.invoices rfl, ?_⟩
    obtain ⟨nextInvoice, online, -, rfl⟩ := h
    exact .same rfl
  cases call with
  | paymentBackend mintId mode =>
    apply Ends.bind
    apply Ends.zoom
    apply (paymentBackend_spec mintId mode w.state).imp (fun _ s' h => hidle s' h)
    intro backend s' h
    obtain ⟨rfl, h | h⟩ := h
    · obtain ⟨-, rfl⟩ := h
      exact Ends.modify ⟨.quiet rfl rfl, .same rfl⟩
    · obtain ⟨-, online, events, rfl⟩ := h
      refine Ends.modify ⟨.quiet rfl rfl, fun other hm => ?_⟩
      cases BTreeMap.mem_insert.mp hm with
      | inl heq => exact .inr ⟨mode, by rw [heq]⟩
      | inr hm => exact .inl hm
  | setOnline mintId online =>
    apply Ends.zoom
    exact (setOnline_spec mintId online w.state).imp (fun _ s' h => hidle s' h)
      fun _ s' h => hidle s' h
  | createInvoice backend amountSat description requestedExpiry now =>
    apply Ends.get_bind
    cases hb : w.backends[backend]? with
    | none =>
      simp only [report, hb]
      exact Ends.pure (hidle _ (.refl _))
    | some payment =>
      have hspec :=
        @createInvoice_spec self payment.mintId amountSat description requestedExpiry now w.state
      apply Ends.get_bind
      apply Ends.bind
      apply Ends.zoom
      apply Ends.intro
      · intro e s' hr
        simp only [report, hb, hr, eventOf]
        exact hidle s' (hspec.of_error hr)
      · intro response s' hr
        obtain ⟨nextInvoice, expiresAt, hnext, hhash, rfl⟩ := hspec.of_ok hr
        simp only [report, hb, hr, eventOf]
        apply Ends.modify
        exact ⟨@Reports.invoiced self w _ payment.mintId ⟨payment.mintId, amountSat, expiresAt,
          self.preimage w.state.nextInvoice payment.mintId, none, 0⟩ response hhash rfl rfl rfl rfl,
          .same rfl⟩
  | settleExternal paymentRequest now =>
    have hspec := @settleExternal_spec self paymentRequest now w.state
    apply Ends.attempt_bind
    · intro e hparse
      simp only [report, hparse]
      exact hidle _ (.refl _)
    · intro invoice hparse
      apply Ends.bind
      apply Ends.zoom
      apply Ends.intro
      · intro e s' hr
        simp only [report, hparse, hr, eventOf]
        exact hidle s' (hspec.of_error hr)
      · intro preimage s' hr
        obtain ⟨invoice', record, hparse', hmarks, hsettles⟩ := hspec.of_ok hr
        rw [hparse, Except.ok.injEq] at hparse'
        subst invoice'
        simp only [report, hparse, hr, eventOf]
        apply Ends.modify
        exact ⟨.funded hmarks rfl, .same hsettles.modes⟩
  | quote backend unit options now =>
    apply withBackend_spec (hidle _ (.refl _))
    intro payment _
    apply Ends.bind
    apply Ends.zoom
    apply (quote_spec payment.mode unit options now w.state).imp (fun _ s' h => hidle s' h)
    intro _ s' h
    exact Ends.pure (hidle s' h)
  | pay backend unit options now =>
    apply Ends.get_bind
    cases hb : w.backends[backend]? with
    | none =>
      simp only [report, hb]
      exact Ends.pure (hidle _ (.refl _))
    | some payment =>
      have hspec := @pay_spec self payment.mintId payment.mode unit options now w.state
      apply Ends.bind
      apply Ends.zoom
      apply Ends.intro
      · intro e s' hr
        simp only [report, hb, hr, eventOf]
        exact hidle s' (hspec.of_error hr)
      · intro response s' hr
        obtain ⟨-, ⟨record, hmarks, hunit, htotal⟩, hsettles⟩ := hspec.of_ok hr
        simp only [report, hb, hr, eventOf]
        apply Ends.modify
        exact ⟨.paid hmarks rfl hunit htotal, .same hsettles.modes⟩

theorem step_reports (w : World) (call : Call self.lightning.Invoice) :
    Reports self w (self.report w call) (self.step w call) ∧
      RegistersOnly call w (self.step w call) := by
  have h := apply_reports call w
  unfold step
  cases hr : self.apply call w with
  | ok _ w' => exact h.of_ok hr
  | error _ w' => exact h.of_error hr

end PaymentNetwork

/-- The records of the network are explained by the history. -/
structure Recorded (network : PaymentNetwork) (w : World) (events : List NetworkEvent) : Prop where
  payments : w.payments = events.filterMap NetworkEvent.settles
  invoiced : ∀ paymentHash mintId amountSat, Invoiced events paymentHash mintId amountSat ↔
    ∃ record, w.state.invoices paymentHash = some record ∧ record.recipientMint = mintId ∧
      record.amountSat = amountSat
  spent : ∀ paymentHash mintId response, PaidBy events paymentHash mintId response →
    ∃ record, w.state.invoices paymentHash = some record ∧ record.paidBy = some mintId ∧
      record.feeSat = network.feeSat ∧ response.totalSpent.unit = .sat ∧
      response.totalSpent.value.toNat = record.amountSat.toNat + network.feeSat.toNat

section

variable {self : PaymentNetwork} {w w' : World} {events new : List NetworkEvent}

theorem invoiced_append {paymentHash : PaymentHash} {mintId payee : String}
    {amountSat amountSat' : UInt64} {response : CreateIncomingPaymentResponse} :
    Invoiced (events ++ [.invoiced mintId amountSat response]) paymentHash payee amountSat' ↔
      Invoiced events paymentHash payee amountSat' ∨
        payee = mintId ∧ amountSat' = amountSat ∧ response.requestLookupId = paymentHash := by
  simp only [Invoiced, List.mem_append, List.mem_singleton, NetworkEvent.invoiced.injEq]
  constructor
  · rintro ⟨r, h | ⟨rfl, rfl, rfl⟩, hhash⟩
    · exact .inl ⟨r, h, hhash⟩
    · exact .inr ⟨rfl, rfl, hhash⟩
  · rintro (⟨r, h, hhash⟩ | ⟨rfl, rfl, hhash⟩)
    · exact ⟨r, .inl h, hhash⟩
    · exact ⟨response, .inr ⟨rfl, rfl, rfl⟩, hhash⟩

theorem paidBy_append {paymentHash : PaymentHash} {mintId payer : String}
    {response r : MakePaymentResponse} :
    PaidBy (events ++ [.paid mintId response]) paymentHash payer r ↔
      PaidBy events paymentHash payer r ∨
        payer = mintId ∧ r = response ∧ response.paymentLookupId = paymentHash := by
  simp only [PaidBy, List.mem_append, List.mem_singleton, NetworkEvent.paid.injEq]
  constructor
  · rintro ⟨h | ⟨rfl, rfl⟩, hhash⟩
    · exact .inl ⟨h, hhash⟩
    · exact .inr ⟨rfl, rfl, hhash⟩
  · rintro (h | ⟨rfl, rfl, hhash⟩)
    · exact ⟨.inl h.1, h.2⟩
    · exact ⟨.inr ⟨rfl, rfl⟩, hhash⟩

/-- A payment leaves the other records, and the recipient and amount of its own. -/
theorem Marks.invoiced {paymentHash other : PaymentHash} {record : InvoiceRecord} {payer : String}
    {feeSat amountSat : UInt64} {mintId : String} {s s' : NetworkState}
    (h : Marks paymentHash record payer feeSat s s') :
    (∃ r, s'.invoices other = some r ∧ r.recipientMint = mintId ∧ r.amountSat = amountSat) ↔
      ∃ r, s.invoices other = some r ∧ r.recipientMint = mintId ∧ r.amountSat = amountSat := by
  rw [h.invoices]
  by_cases ho : other = paymentHash
  · subst other
    simp [h.found]
  · simp [Function.update_of_ne ho]

theorem Marks.kept {paymentHash other : PaymentHash} {record r : InvoiceRecord}
    {payer payer' : String} {feeSat : UInt64} {s s' : NetworkState}
    (h : Marks paymentHash record payer feeSat s s') (hr : s.invoices other = some r)
    (hpaid : r.paidBy = some payer') : s'.invoices other = some r := by
  have ho : other ≠ paymentHash := by
    intro heq
    rw [heq, h.found, Option.some.injEq] at hr
    rw [← hr, h.unpaid] at hpaid
    contradiction
  rw [h.invoices, Function.update_of_ne ho, hr]

theorem Reports.recorded (h : Reports self w new w') (hn : Numbered self w)
    (hdistinct : DistinctHashes self w') (hb : Recorded self w events) :
    Recorded self w' (events ++ new) := by
  cases h with
  | quiet invoices payments =>
    rw [List.append_nil]
    exact ⟨payments.trans hb.payments, by rw [invoices]; exact hb.invoiced,
      by rw [invoices]; exact hb.spent⟩
  | @invoiced _ mintId record response hash created invoices recipient payments =>
    have hfresh := hn.fresh created hdistinct
    refine ⟨?_, ?_, ?_⟩
    · rw [payments, hb.payments]
      simp [NetworkEvent.settles]
    · intro other payee amountSat
      rw [invoiced_append, hb.invoiced, invoices, hash]
      by_cases ho : other = self.paymentHashOf w.state.nextInvoice mintId
      · subst other
        simp [hfresh, recipient, eq_comm]
      · simp [Function.update_of_ne ho, Ne.symm ho]
    · intro other payer r hpaid
      have hold : PaidBy events other payer r := by simpa [PaidBy] using hpaid
      obtain ⟨old, hrecord, hrest⟩ := hb.spent other payer r hold
      have ho : other ≠ self.paymentHashOf w.state.nextInvoice mintId := by
        intro heq
        rw [heq, hfresh] at hrecord
        contradiction
      exact ⟨old, by rw [invoices, Function.update_of_ne ho, hrecord], hrest⟩
  | @funded _ paymentHash record marks payments =>
    refine ⟨?_, ?_, ?_⟩
    · rw [payments, hb.payments]
      simp [NetworkEvent.settles]
    · intro other payee amountSat
      rw [marks.invoiced, ← hb.invoiced]
      simp [Invoiced]
    · intro other payer r hpaid
      have hold : PaidBy events other payer r := by simpa [PaidBy] using hpaid
      obtain ⟨old, hrecord, hby, hrest⟩ := hb.spent other payer r hold
      exact ⟨old, marks.kept hrecord hby, hby, hrest⟩
  | @paid _ mintId record response marks payments unit total =>
    refine ⟨?_, ?_, ?_⟩
    · rw [payments, hb.payments]
      simp [NetworkEvent.settles]
    · intro other payee amountSat
      rw [marks.invoiced, ← hb.invoiced]
      simp [Invoiced]
    · intro other payer r hpaid
      rcases paidBy_append.mp hpaid with hold | ⟨rfl, rfl, rfl⟩
      · obtain ⟨old, hrecord, hby, hrest⟩ := hb.spent other payer r hold
        exact ⟨old, marks.kept hrecord hby, hby, hrest⟩
      · exact ⟨{ record with paidBy := some payer, feeSat := self.feeSat },
          by rw [marks.invoices, Function.update_self], rfl, rfl, unit, total⟩

end

namespace PaymentNetwork

variable {self : PaymentNetwork}

theorem recorded_foldl {w : World} {events : List NetworkEvent} (hw : Sound self w)
    (hb : Recorded self w events) (calls : List (Call self.lightning.Invoice))
    (hdistinct : DistinctHashes self (calls.foldl self.step w)) :
    Recorded self (calls.foldl self.step w) (events ++ self.history w calls) := by
  induction calls generalizing w events with
  | nil => simpa [history] using hb
  | cons call calls ih =>
    have hnow : DistinctHashes self (self.step w call) :=
      hdistinct.mono fun _ hi => created_foldl _ calls hi
    have hnext := (step_reports w call).1.recorded hw.numbered hnow hb
    rw [history, ← List.append_assoc]
    exact ih (sound_step hw call) hnext hdistinct

theorem recorded_run {calls : List (Call self.lightning.Invoice)}
    (hdistinct : DistinctHashes self (self.run calls)) :
    Recorded self (self.run calls) (self.history {} calls) := by
  have hstart : Recorded self {} [] := ⟨rfl, by simp [Invoiced], by simp [PaidBy]⟩
  exact recorded_foldl sound_start hstart calls hdistinct

end PaymentNetwork

section

variable {self : PaymentNetwork} {w : World} {events : List NetworkEvent}

/-- A record carries the name of a mint exactly when the mint paid, or when the name is that of
external funding and the invoice was funded. -/
theorem Recorded.marked (hb : Recorded self w events) (hp : PaidOnce w) {paymentHash : PaymentHash}
    {payer : String} :
    (∃ record, w.state.invoices paymentHash = some record ∧ record.paidBy = some payer) ↔
      (∃ response, PaidBy events paymentHash payer response) ∨
        payer = "external" ∧ .funded paymentHash ∈ events := by
  rw [← hp.marked, hb.payments, List.mem_filterMap]
  constructor
  · intro h
    obtain ⟨e, he, hs⟩ := h
    cases e with
    | invoiced mintId amountSat response => cases hs
    | funded h =>
      obtain ⟨rfl, rfl⟩ := Prod.mk.inj (Option.some.inj hs)
      exact .inr ⟨rfl, he⟩
    | paid mintId response =>
      obtain ⟨rfl, rfl⟩ := Prod.mk.inj (Option.some.inj hs)
      exact .inl ⟨response, he, rfl⟩
  · intro h
    cases h with
    | inl h =>
      obtain ⟨response, he, rfl⟩ := h
      exact ⟨_, he, rfl⟩
    | inr h =>
      obtain ⟨rfl, he⟩ := h
      exact ⟨_, he, rfl⟩

theorem Recorded.exclusive (hb : Recorded self w events) (hp : PaidOnce w)
    {paymentHash : PaymentHash} {mintId : String} {response : MakePaymentResponse}
    (hf : .funded paymentHash ∈ events) : ¬PaidBy events paymentHash mintId response := by
  intro h
  obtain ⟨he, rfl⟩ := h
  have honce := hp.once
  rw [hb.payments, List.Nodup, List.pairwise_map, List.pairwise_filterMap] at honce
  have hsymm : Std.Symm fun e e' : NetworkEvent => ∀ b, e.settles = some b →
      ∀ b', e'.settles = some b' → b.1 ≠ b'.1 := ⟨fun _ _ h b hb b' hb' => (h b' hb' b hb).symm⟩
  exact honce.forall hf he (by simp) _ rfl _ rfl rfl

theorem Recorded.paid_iff (hb : Recorded self w events) (hp : PaidOnce w)
    {paymentHash : PaymentHash} {record : InvoiceRecord}
    (hrecord : w.state.invoices paymentHash = some record) :
    record.paidBy ≠ none ↔ Paid events paymentHash := by
  constructor
  · intro h
    obtain ⟨payer, hby⟩ := Option.ne_none_iff_exists'.mp h
    cases (hb.marked hp).mp ⟨record, hrecord, hby⟩ with
    | inl h => exact .inr ⟨payer, h⟩
    | inr h => exact .inl h.2
  · intro h
    have hmarked : ∃ payer r, w.state.invoices paymentHash = some r ∧ r.paidBy = some payer := by
      cases h with
      | inl h => exact ⟨"external", (hb.marked hp).mpr (.inr ⟨rfl, h⟩)⟩
      | inr h =>
        obtain ⟨payer, h⟩ := h
        exact ⟨payer, (hb.marked hp).mpr (.inl h)⟩
    obtain ⟨payer, r, hr, hby⟩ := hmarked
    rw [hrecord, Option.some.injEq] at hr
    simp [hr, hby]

theorem outgoingStatus_of_record {paymentHash : PaymentHash} {record : InvoiceRecord}
    {payer : String} {s : NetworkState} (h : s.invoices paymentHash = some record) :
    outgoingStatus payer (.paymentHash paymentHash) s = .ok {
      paymentLookupId := paymentHash
      paymentProof :=
        if record.paidBy = some payer then some (hexEncode record.preimage.toList) else none
      status := if record.paidBy = some payer then .paid else .unpaid
      totalSpent := ⟨if record.paidBy = some payer then record.amountSat.saturatingAdd record.feeSat
        else 0, .sat⟩ } := by
  simp only [outgoingStatus, identifierHash, Except.bind_eq_ok, okOr_eq_ok]
  exact ⟨paymentHash, rfl, record, h, rfl⟩

theorem incomingStatus_of_record {paymentHash : PaymentHash} {record : InvoiceRecord}
    {mintId : String} {s : NetworkState} (h : s.invoices paymentHash = some record) :
    incomingStatus mintId (.paymentHash paymentHash) s =
      if record.recipientMint ≠ mintId ∨ record.paidBy = none then []
      else [incomingResponse paymentHash record] := by
  simp only [incomingStatus, identifierHash, h]

theorem Recorded.outgoing (hb : Recorded self w events) (hp : PaidOnce w) {mintId payee : String}
    {paymentHash : PaymentHash} {amountSat : UInt64}
    (hname : mintId = "external" → .funded paymentHash ∉ events)
    (hinvoiced : Invoiced events paymentHash payee amountSat) :
    ∃ status, outgoingStatus mintId (.paymentHash paymentHash) w.state = .ok status ∧
      (status.status = .paid ↔ ∃ response, PaidBy events paymentHash mintId response) ∧
      (∀ response, PaidBy events paymentHash mintId response →
        status.totalSpent = response.totalSpent ∧ response.totalSpent.unit = .sat ∧
          response.totalSpent.value.toNat = amountSat.toNat + self.feeSat.toNat) ∧
      (status.status ≠ .paid → status.status = .unpaid ∧ status.totalSpent = ⟨0, .sat⟩) := by
  obtain ⟨record, hrecord, -, rfl⟩ := (hb.invoiced _ _ _).mp hinvoiced
  have hmarked : record.paidBy = some mintId ↔
      ∃ response, PaidBy events paymentHash mintId response := by
    have h := @Recorded.marked _ _ _ hb hp paymentHash mintId
    simp only [hrecord, Option.some.injEq, exists_eq_left'] at h
    rw [h]
    exact ⟨fun h => h.resolve_right fun hf => hname hf.1 hf.2, .inl⟩
  refine ⟨_, outgoingStatus_of_record hrecord, ?_, ?_, ?_⟩
  · rw [← hmarked]
    by_cases hby : record.paidBy = some mintId <;> simp [hby]
  · intro response hpaid
    obtain ⟨r, hr, hby, hfee, hunit, htotal⟩ := hb.spent _ _ _ hpaid
    rw [hrecord, Option.some.injEq] at hr
    subst hr
    refine ⟨?_, hunit, htotal⟩
    rw [← hfee] at htotal
    simp only [hby, if_true, UInt64.saturatingAdd_eq htotal, ← hunit]
  · by_cases hby : record.paidBy = some mintId <;> simp [hby]

theorem Recorded.incoming (hb : Recorded self w events) (hp : PaidOnce w) {mintId payee : String}
    {paymentHash : PaymentHash} {amountSat : UInt64}
    (hinvoiced : Invoiced events paymentHash payee amountSat) :
    (incomingStatus mintId (.paymentHash paymentHash) w.state ≠ [] ↔
        mintId = payee ∧ Paid events paymentHash) ∧
      (incomingStatus mintId (.paymentHash paymentHash) w.state ≠ [] →
        incomingStatus mintId (.paymentHash paymentHash) w.state =
          [⟨paymentHash, ⟨amountSat, .sat⟩, hexEncode paymentHash.toList⟩]) := by
  obtain ⟨record, hrecord, rfl, rfl⟩ := (hb.invoiced _ _ _).mp hinvoiced
  rw [incomingStatus_of_record hrecord, ← hb.paid_iff hp hrecord]
  by_cases hother : record.recipientMint ≠ mintId ∨ record.paidBy = none
  · simp only [hother, if_true]
    refine ⟨⟨fun h => absurd rfl h, fun h => ?_⟩, fun h => absurd rfl h⟩
    cases hother with
    | inl hother => exact absurd h.1.symm hother
    | inr hunpaid => exact absurd hunpaid h.2
  · simp only [hother, if_false]
    simp only [not_or, not_not, ne_eq] at hother
    exact ⟨⟨fun _ => ⟨hother.1.symm, hother.2⟩, fun _ => by simp⟩, fun _ => rfl⟩

end

namespace PaymentNetwork

variable {self : PaymentNetwork}

theorem modes_foldl {mintId : String} (w : World) (calls : List (Call self.lightning.Invoice))
    (hcalls : ∀ mode, .paymentBackend mintId mode ∉ calls)
    (h : mintId ∈ (calls.foldl self.step w).state.modes) : mintId ∈ w.state.modes := by
  induction calls generalizing w with
  | nil => exact h
  | cons call calls ih =>
    have hlater := ih (self.step w call) (fun mode hm => hcalls mode (.tail _ hm)) h
    cases (step_reports w call).2 mintId hlater with
    | inl hm => exact hm
    | inr heq =>
      obtain ⟨mode, rfl⟩ := heq
      exact absurd List.mem_cons_self (hcalls mode)

/-- Status queries agree with the history exactly as long as no mint has the name under which
external funding is recorded, or nothing has been funded. -/
theorem statusesMatch_iff {calls : List (Call self.lightning.Invoice)}
    (hdistinct : DistinctHashes self (self.run calls)) :
    (StatusesMatch self (self.history {} calls) (self.run calls).state ↔
      ("external" ∈ (self.run calls).state.modes →
        ∀ paymentHash, .funded paymentHash ∉ self.history {} calls)) ∧
      ((∀ mode, .paymentBackend "external" mode ∉ calls) →
        StatusesMatch self (self.history {} calls) (self.run calls).state) := by
  have hb := recorded_run hdistinct
  have hstart : PaidOnce ({} : World) := ⟨List.nodup_nil, by simp⟩
  have hp : PaidOnce (self.run calls) := paidOnce_foldl sound_start hstart calls hdistinct
  have hmatches (hname : "external" ∈ (self.run calls).state.modes →
      ∀ paymentHash, .funded paymentHash ∉ self.history {} calls) :
      StatusesMatch self (self.history {} calls) (self.run calls).state := by
    refine ⟨fun mintId hm paymentHash payee amountSat => ?_, fun mintId _ paymentHash payee
      amountSat => hb.incoming hp⟩
    refine hb.outgoing hp fun heq => hname ?_ paymentHash
    rwa [← heq]
  refine ⟨⟨?_, hmatches⟩, ?_⟩
  · intro hmatch hregistered paymentHash hfunded
    obtain ⟨record, hrecord, hby⟩ := (hb.marked hp).mpr (.inr ⟨rfl, hfunded⟩)
    have hinvoiced := (hb.invoiced paymentHash _ _).mpr ⟨record, hrecord, rfl, rfl⟩
    obtain ⟨status, hstatus, hpaid, -⟩ := hmatch.outgoing _ hregistered _ _ _ hinvoiced
    rw [outgoingStatus_of_record hrecord, Except.ok.injEq] at hstatus
    obtain ⟨response, h⟩ := hpaid.mp (by simp [← hstatus, hby])
    exact hb.exclusive hp hfunded h
  · intro hcalls
    exact hmatches fun hm => absurd (modes_foldl {} calls hcalls hm) (by simp)

end PaymentNetwork

def digest (n : Nat) : Vector UInt8 32 :=
  Vector.ofFn fun i => UInt8.ofNat (n / 256 ^ (31 - i.val))

def sampleMaterial (domain : String) (serial : UInt64) (mintId : String) : List UInt8 :=
  (7 : UInt64).toBeBytes ++ (UInt64.ofNat (bytes domain).length).toBeBytes ++ bytes domain ++
    serial.toBeBytes ++ bytes mintId

def alphaPreimage : Vector UInt8 32 :=
  digest 0xa57c1fd8f4a2d4aac378d50ca98fe0a3ae993c7c759eaf92b4af18e28e20003e

def betaPreimage : Vector UInt8 32 :=
  digest 0x010bfd30f39bb492a6397cd440edce5880a9bb43f1344931dc5edbbb0dca8617

def alphaHash : PaymentHash :=
  digest 0x0c4eb3e4171d409a59aac7a3b988e620d0c8a5b667489d28ec6aa2d7820a19a5

def betaHash : PaymentHash :=
  digest 0x02c94c9491453d220b1359dc7bea66905fb1a9278b8d3dbd30bf1bb690e4efdb

def sampleDigests : List (List UInt8 × Vector UInt8 32) :=
  [(sampleMaterial "preimage" 0 "alpha", alphaPreimage), (alphaPreimage.toList, alphaHash),
    (sampleMaterial "payment-secret" 0 "alpha",
      digest 0xe5a56cee722468bebd371b23a5bce45f32871b6709c2aff58b39a813c59ec808),
    (sampleMaterial "invoice-signing-key" 0 "alpha",
      digest 0xcb5ab3b041d4b2438a29cc5800d908452f3051bc11c86f096f4d60dc95adeeb6),
    (sampleMaterial "preimage" 1 "beta", betaPreimage), (betaPreimage.toList, betaHash),
    (sampleMaterial "payment-secret" 1 "beta",
      digest 0x853b97c56f2e7447362fe41389eb08923910b746b7c67493673dd7e9561528a2),
    (sampleMaterial "invoice-signing-key" 0 "beta",
      digest 0x78e6b8bed45714061c82ad7149abf82879631c3bf5d19a6ce9d298577a66db0b)]

structure SampleInvoice where
  text : String
  paymentHash : PaymentHash
  amountMilliSatoshis : UInt64
  description : String
  durationSinceEpoch : UInt64
  deriving DecidableEq, Repr

def alphaInvoice : SampleInvoice where
  text := "lnbc1u1qqqqqlgdqvv3jhqmmnd96qpp5p38t8eqhr4qf5kd2c73mnz8xyrgv3fdkvayf628vd23d0qs2rxjssp5ukj" ++
    "kemnjy35ta0fhrv36t08ytuegwxm8p8p2lavt8x5p83v7eqyq9qrsgqxqrrsscqpjspvzhnjmr2cdty6vu3xypxxw3vefg" ++
    "amzaz4q85x78pk37y5d4tvy8vwafmcl8dge3twlfvlwd4xnuk0n28x42jhyv0qlvcjuuv2tyvgqw8cywf"
  paymentHash := alphaHash
  amountMilliSatoshis := 100000
  description := "deposit"
  durationSinceEpoch := 1000

def betaInvoice : SampleInvoice where
  text := "lnbc100n1qqqqqlgdqvwpshjmt9de6qpp5qty5e9y3g57jyzcnt8w8h6nxjp0mr2f83wxnm0fshudmdy8yaldssp5" ++
    "s5ae03t09e6ywd30usfcn6cgjgu3pd6xklr8fym88ht7j4s49z3q9qrsgqxqrrsscqpjrsjmmxr5rv6qzafy6k2al94lst" ++
    "6ylhz599pajfqtm4newjk5trr3tfnfk3ljm08nkk6azaz7kp8f3xldnxnszpgh3uz3xhe3mz9vc5cqx0qetc"
  paymentHash := betaHash
  amountMilliSatoshis := 10000
  description := "payment"
  durationSinceEpoch := 1000

def sampleInvoices : List SampleInvoice := [alphaInvoice, betaInvoice]

/-- The two invoices and the digests they come from, as the real crates give them; nothing else is
known. -/
def sampleLightning : Lightning where
  Invoice := SampleInvoice
  fromStr := fun text =>
    okOr (sampleInvoices.find? fun invoice => invoice.text = text) "invalid invoice"
  toString := SampleInvoice.text
  paymentHash := SampleInvoice.paymentHash
  amountMilliSatoshis := fun invoice => some invoice.amountMilliSatoshis
  buildSigned := fun fields => okOr (sampleInvoices.find? fun invoice =>
    invoice.paymentHash = fields.paymentHash ∧
      invoice.amountMilliSatoshis = fields.amountMilliSatoshis ∧
      invoice.description = fields.description ∧
      invoice.durationSinceEpoch = fields.durationSinceEpoch ∧ fields.expiryTime = 3600)
    "unknown invoice"
  sha256 := fun data => ((sampleDigests.find? fun entry => entry.1 = data).map Prod.snd).getD
    (digest 0)
  isSecretKey := fun key => key ≠ digest 0

def sampleNetwork : PaymentNetwork := ⟨sampleLightning, 7, 1⟩

/-- `alpha` is funded with 100 sats and pays 10 of them to `beta`. -/
def samplePayments : List (Call sampleNetwork.lightning.Invoice) :=
  [.paymentBackend "alpha" .withdrawable, .paymentBackend "beta" .withdrawable,
    .createInvoice 0 100 "deposit" none 1000, .settleExternal alphaInvoice.text 1000,
    .createInvoice 1 10 "payment" none 1000,
    .pay 0 .sat (.bolt11 betaInvoice none none) 1001]

/-- A mint of the name `external` looks on while `alpha` is funded. -/
def sampleBystander : List (Call sampleNetwork.lightning.Invoice) :=
  [.paymentBackend "alpha" .withdrawable, .paymentBackend "external" .withdrawable,
    .createInvoice 0 100 "deposit" none 1000, .settleExternal alphaInvoice.text 1000]

namespace PaymentNetwork

example : ((outgoingStatus "alpha" (.paymentHash betaHash)
    (sampleNetwork.run samplePayments).state).map fun status =>
      (status.status, status.totalSpent)) = .ok (.paid, ⟨11, .sat⟩) := by
  decide +kernel

theorem statusesMatch_iff_sample :
    StatusesMatch sampleNetwork (sampleNetwork.history {} samplePayments)
      (sampleNetwork.run samplePayments).state := by
  have hcreated : (sampleNetwork.run samplePayments).created = [(0, "alpha"), (1, "beta")] := by
    decide +kernel
  have hne : sampleNetwork.paymentHashOf 0 "alpha" ≠ sampleNetwork.paymentHashOf 1 "beta" := by
    decide +kernel
  have hdistinct : DistinctHashes sampleNetwork (sampleNetwork.run samplePayments) := by
    simp only [DistinctHashes, hcreated]
    intro x hx y hy h
    simp only [List.mem_cons, List.not_mem_nil, or_false, Set.mem_ofPred_eq] at hx hy
    obtain rfl | rfl := hx <;> obtain rfl | rfl := hy
    · rfl
    · exact absurd h hne
    · exact absurd h.symm hne
    · rfl
  exact (statusesMatch_iff hdistinct).2 (by simp [samplePayments])

/-- The bystander is told that it paid 100 sats, although no mint paid anything. -/
theorem bystander_reported_paid :
    DistinctHashes sampleNetwork (sampleNetwork.run sampleBystander) ∧
      ((outgoingStatus "external" (.paymentHash alphaHash)
        (sampleNetwork.run sampleBystander).state).map fun status =>
          (status.status, status.totalSpent)) = .ok (.paid, ⟨100, .sat⟩) ∧
      (∀ mintId response, .paid mintId response ∉ sampleNetwork.history {} sampleBystander) ∧
      ¬StatusesMatch sampleNetwork (sampleNetwork.history {} sampleBystander)
        (sampleNetwork.run sampleBystander).state := by
  have hcreated : (sampleNetwork.run sampleBystander).created = [(0, "alpha")] := by
    decide +kernel
  have hhistory : sampleNetwork.history {} sampleBystander =
      [.invoiced "alpha" 100 ⟨alphaHash, alphaInvoice.text, some 4600⟩, .funded alphaHash] := by
    decide +kernel
  have hstatus : ((outgoingStatus "external" (.paymentHash alphaHash)
      (sampleNetwork.run sampleBystander).state).map fun status =>
        (status.status, status.totalSpent)) = .ok (.paid, ⟨100, .sat⟩) := by
    decide +kernel
  have hregistered : "external" ∈ (sampleNetwork.run sampleBystander).state.modes := by
    decide +kernel
  refine ⟨?_, hstatus, ?_, ?_⟩
  · simp only [DistinctHashes, hcreated]
    intro x hx y hy _
    simp only [List.mem_singleton, Set.mem_ofPred_eq] at hx hy
    rw [hx, hy]
  · simp [hhistory]
  · intro hmatch
    have hinvoiced : Invoiced (sampleNetwork.history {} sampleBystander) alphaHash "alpha" 100 :=
      ⟨_, by rw [hhistory]; exact .head _, rfl⟩
    obtain ⟨status, hok, hpaid, -⟩ := hmatch.outgoing _ hregistered _ _ _ hinvoiced
    rw [hok] at hstatus
    have hreported := congrArg Prod.fst (Except.ok.inj hstatus)
    obtain ⟨response, he, -⟩ := hpaid.mp hreported
    simp [hhistory] at he

end PaymentNetwork
end CashuService

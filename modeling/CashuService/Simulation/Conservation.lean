import CashuService.Simulation.Network
set_option autoImplicit false

namespace CashuService

/-! Value in the payment network: it enters through the orchestrator, and from then on it is only
moved. The calls of a run come in any order, and every error leaves the state it was raised in. -/

def NetworkState.totalReserve (s : NetworkState) : Nat := s.reserves.sumOf UInt64.toNat

/-- What a network has handed out and what was paid on it, next to its own state. -/
structure World where
  state : NetworkState := {}
  backends : List SimMintPayment := []
  /-- Serial number and mint of every registered invoice. -/
  created : List (UInt64 × String) := []
  /-- Payment hash and payer of every successful payment. -/
  payments : List (PaymentHash × String) := []

inductive Call (Invoice : Type) where
  | paymentBackend (mintId : String) (mode : IssuerMode)
  | setOnline (mintId : String) (online : Bool)
  | createInvoice (backend : Nat) (amountSat : UInt64) (description : String)
      (requestedExpiry : Option UInt64) (now : UInt64)
  | settleExternal (paymentRequest : String) (now : UInt64)
  | quote (backend : Nat) (unit : CurrencyUnit) (options : OutgoingPaymentOptions Invoice)
      (now : UInt64)
  | pay (backend : Nat) (unit : CurrencyUnit) (options : OutgoingPaymentOptions Invoice)
      (now : UInt64)

abbrev WorldM := EStateM PaymentError World

def onNetwork {α : Type} (x : NetworkM α) : WorldM α :=
  zoom World.state (fun s w => { w with state := s }) x

/-- Use a backend by its position among those handed out. Nobody can make up another one. -/
def withBackend (backend : Nat) (use : SimMintPayment → WorldM Unit) : WorldM Unit := do
  let w ← get
  match w.backends[backend]? with
  | none => return ()
  | some payment => use payment

namespace PaymentNetwork

variable (self : PaymentNetwork)

def apply : Call self.lightning.Invoice → WorldM Unit
  | .paymentBackend mintId mode => do
    let backend ← onNetwork (CashuService.paymentBackend mintId mode)
    modify fun w => { w with backends := w.backends ++ [backend] }
  | .setOnline mintId online => onNetwork (CashuService.setOnline mintId online)
  | .createInvoice backend amountSat description requestedExpiry now =>
    withBackend backend fun payment => do
      let w ← get
      let _ ← onNetwork
        (self.createInvoice payment.mintId amountSat description requestedExpiry now)
      modify fun w' => { w' with created := w'.created ++ [(w.state.nextInvoice, payment.mintId)] }
  | .settleExternal paymentRequest now => do
    let invoice ← attempt (self.parseInvoice paymentRequest)
    let _ ← onNetwork (self.settleExternal paymentRequest now)
    modify fun w => {
      w with payments := w.payments ++ [(self.lightning.paymentHash invoice, "external")] }
  | .quote backend unit options now =>
    withBackend backend fun payment => do
      let _ ← onNetwork (self.quote payment.mode unit options now)
      return ()
  | .pay backend unit options now =>
    withBackend backend fun payment => do
      let response ← onNetwork (self.pay payment.mintId payment.mode unit options now)
      modify fun w => {
        w with payments := w.payments ++ [(response.paymentLookupId, payment.mintId)] }

def step (w : World) (call : Call self.lightning.Invoice) : World :=
  match self.apply call w with
  | .ok _ w' => w'
  | .error _ w' => w'

def run (calls : List (Call self.lightning.Invoice)) : World := calls.foldl self.step {}

end PaymentNetwork

def Idle (s s' : NetworkState) : Prop :=
  ∃ nextInvoice online, s.nextInvoice ≤ nextInvoice ∧
    s' = { s with nextInvoice := nextInvoice, online := online }

/-- One payment: an unpaid invoice is marked with its payer, and only the reserve of the mint
that is debited, if there is one, may shrink. -/
structure Settles (debited : Option String) (paymentHash : PaymentHash) (payer : String)
    (s s' : NetworkState) : Prop where
  marks : ∃ record record', s.invoices paymentHash = some record ∧ record.paidBy = none ∧
    record'.paidBy = some payer ∧
    s'.invoices = Function.update s.invoices paymentHash (some record')
  nextInvoice : s'.nextInvoice = s.nextInvoice
  modes : s'.modes = s.modes
  accounts : ∀ mintId, mintId ∈ s'.reserves ↔ mintId ∈ s.reserves
  balance : s'.totalReserve + s'.feeSinkSat.toNat + s.externalFundingSat.toNat =
    s.totalReserve + s.feeSinkSat.toNat + s'.externalFundingSat.toNat
  others : ∀ mintId reserve, debited ≠ some mintId → s.reserves[mintId]? = some reserve →
    ∃ reserve', s'.reserves[mintId]? = some reserve' ∧ reserve ≤ reserve'

structure Marks (paymentHash : PaymentHash) (record : InvoiceRecord) (payer : String)
    (feeSat : UInt64) (s s' : NetworkState) : Prop where
  found : s.invoices paymentHash = some record
  unpaid : record.paidBy = none
  invoices : s'.invoices = Function.update s.invoices paymentHash
    (some { record with paidBy := some payer, feeSat := feeSat })

theorem Idle.refl (s : NetworkState) : Idle s s := ⟨s.nextInvoice, s.online, UInt64.le_refl _, rfl⟩

theorem credit_le {reserves : BTreeMap String UInt64} {recipient mintId : String}
    {before after reserve : UInt64} (h : reserves[recipient]? = some before)
    (hle : before.toNat ≤ after.toNat) (hreserve : reserves[mintId]? = some reserve) :
    ∃ reserve', (reserves.insert recipient after)[mintId]? = some reserve' ∧
      reserve ≤ reserve' := by
  by_cases hm : recipient = mintId
  · subst mintId
    rw [h, Option.some.injEq] at hreserve
    subst reserve
    exact ⟨after, by simp, UInt64.le_iff_toNat_le.mpr hle⟩
  · exact ⟨reserve, by rw [BTreeMap.getElem?_insert_ne _ _ hm, hreserve], UInt64.le_refl reserve⟩

structure MovesReserve (payer : String) (spent amount : Nat)
    (reserves reserves' : BTreeMap String UInt64) : Prop where
  accounts : ∀ mintId, mintId ∈ reserves' ↔ mintId ∈ reserves
  total : reserves'.sumOf UInt64.toNat + spent = reserves.sumOf UInt64.toNat + amount
  others : ∀ mintId reserve, payer ≠ mintId → reserves[mintId]? = some reserve →
    ∃ reserve', reserves'[mintId]? = some reserve' ∧ reserve ≤ reserve'

theorem movesReserve_self {payer : String} {spent amount : Nat}
    {reserves : BTreeMap String UInt64} {before after : UInt64}
    (hpayer : reserves[payer]? = some before)
    (h : after.toNat + spent = before.toNat + amount) :
    MovesReserve payer spent amount reserves (reserves.insert payer after) where
  accounts := fun _ => BTreeMap.mem_insert_of_mem _ (BTreeMap.mem_of_getElem? hpayer)
  total := by
    have hsum := BTreeMap.sumOf_insert_some UInt64.toNat after hpayer
    omega
  others := fun mintId reserve hother hreserve =>
    ⟨reserve, by rw [BTreeMap.getElem?_insert_ne _ _ hother, hreserve], UInt64.le_refl reserve⟩

theorem movesReserve_other {payer recipient : String} {spent amount : Nat}
    {reserves : BTreeMap String UInt64} {before after before' after' : UInt64}
    (hne : payer ≠ recipient) (hpayer : reserves[payer]? = some before)
    (hrecipient : reserves[recipient]? = some before')
    (hdebit : after.toNat + spent = before.toNat)
    (hcredit : after'.toNat = before'.toNat + amount) :
    MovesReserve payer spent amount reserves
      ((reserves.insert payer after).insert recipient after') := by
  have hkept : (reserves.insert payer after)[recipient]? = some before' := by
    rw [BTreeMap.getElem?_insert_ne _ _ hne, hrecipient]
  have hsum := BTreeMap.sumOf_insert_some UInt64.toNat after hpayer
  have hsum' := BTreeMap.sumOf_insert_some UInt64.toNat after' hkept
  have hpaid := BTreeMap.mem_of_getElem? hpayer
  have hknown := BTreeMap.mem_of_getElem? hkept
  exact {
    accounts := fun _ =>
      (BTreeMap.mem_insert_of_mem _ hknown).trans (BTreeMap.mem_insert_of_mem _ hpaid)
    total := by omega
    others := fun mintId reserve hother hreserve => by
      rw [← BTreeMap.getElem?_insert_ne _ after hother] at hreserve
      exact credit_le hkept (by omega) hreserve }

theorem setOnline_spec (mintId : String) (online : Bool) (s : NetworkState) :
    Ends (setOnline mintId online) s (fun _ s' => Idle s s') fun _ s' => Idle s s' := by
  apply Ends.get_bind
  apply Ends.attempt_bind
  · intro _ _
    exact .refl s
  · intro _ _
    exact Ends.modify ⟨s.nextInvoice, _, UInt64.le_refl _, rfl⟩

theorem paymentBackend_spec (mintId : String) (mode : IssuerMode) (s : NetworkState) :
    Ends (paymentBackend mintId mode) s (fun _ s' => Idle s s') fun backend s' =>
      backend = ⟨mintId, mode⟩ ∧ (s.modes[mintId]? = some mode ∧ s' = s ∨
        s.modes[mintId]? = none ∧ ∃ online events, s' = {
          s with
          modes := s.modes.insert mintId mode
          reserves := s.reserves.insert mintId 0
          online := online
          events := events }) := by
  apply Ends.attempt_bind
  · intro _ _
    exact .refl s
  · intro _ _
    apply Ends.get_bind
    cases hmode : s.modes[mintId]? with
    | none => exact Ends.modify_bind (Ends.pure ⟨rfl, .inr ⟨rfl, _, _, rfl⟩⟩)
    | some existing =>
      apply Ends.attempt_bind
      · intro _ _
        exact .refl s
      · intro _ hsame
        have hsame : existing = mode := by simpa using hsame
        exact Ends.pure ⟨rfl, .inl ⟨by rw [hsame], rfl⟩⟩

namespace PaymentNetwork

variable {self : PaymentNetwork}

theorem ensureInvoicePayable_ok {record : InvoiceRecord} {invoice : self.lightning.Invoice}
    {now : UInt64} {u : Unit} (h : self.ensureInvoicePayable record invoice now = .ok u) :
    record.paidBy = none := by
  simp only [ensureInvoicePayable, Except.bind_eq_ok] at h
  obtain ⟨_, hunpaid, -⟩ := h
  simpa using hunpaid

theorem createInvoice_spec (mintId : String) (amountSat : UInt64) (description : String)
    (requestedExpiry : Option UInt64) (now : UInt64) (s : NetworkState) :
    Ends (self.createInvoice mintId amountSat description requestedExpiry now) s
      (fun _ s' => Idle s s') fun response s' =>
        ∃ nextInvoice expiresAt, nextInvoice.toNat = s.nextInvoice.toNat + 1 ∧
          response.requestLookupId = self.paymentHashOf s.nextInvoice mintId ∧ s' = {
            s with
            nextInvoice := nextInvoice
            invoices := Function.update s.invoices (self.paymentHashOf s.nextInvoice mintId)
              (some {
                recipientMint := mintId
                amountSat := amountSat
                expiresAt := expiresAt
                preimage := self.preimage s.nextInvoice mintId
                paidBy := none
                feeSat := 0 }) } := by
  apply Ends.attempt_bind (fun _ _ => .refl s)
  intro _ _
  apply Ends.attempt_bind (fun _ _ => .refl s)
  intro _ _
  apply Ends.get_bind
  apply Ends.attempt_bind (fun _ _ => .refl s)
  intro _ _
  apply Ends.checkedAdd_bind (fun _ => .refl s)
  intro nextInvoice hnext
  have hidle : Idle s { s with nextInvoice := nextInvoice } := by
    have hone : (1 : UInt64).toNat = 1 := rfl
    exact ⟨nextInvoice, s.online, UInt64.le_iff_toNat_le.mpr (by omega), rfl⟩
  apply Ends.modify_bind
  apply Ends.attempt_bind (fun _ _ => hidle)
  intro _ _
  apply Ends.attempt_bind (fun _ _ => hidle)
  intro _ _
  apply Ends.attempt_bind (fun _ _ => hidle)
  intro _ _
  exact Ends.modify_bind (Ends.pure ⟨nextInvoice, _, hnext, rfl, rfl⟩)

theorem quote_spec (mode : IssuerMode) (unit : CurrencyUnit)
    (options : OutgoingPaymentOptions self.lightning.Invoice) (now : UInt64) (s : NetworkState) :
    Ends (self.quote mode unit options now) s (fun _ s' => Idle s s') fun _ s' => Idle s s' := by
  apply Ends.attempt_bind (fun _ _ => .refl s)
  intro _ _
  apply Ends.attempt_bind (fun _ _ => .refl s)
  intro _ _
  apply Ends.attempt_bind (fun _ _ => .refl s)
  intro _ _
  apply Ends.get_bind
  apply Ends.attempt_bind (fun _ _ => .refl s)
  intro _ _
  apply Ends.attempt_bind (fun _ _ => .refl s)
  intro _ _
  apply Ends.attempt_bind (fun _ _ => .refl s)
  intro _ _
  exact Ends.pure (.refl s)

theorem settleExternal_spec (paymentRequest : String) (now : UInt64) (s : NetworkState) :
    Ends (self.settleExternal paymentRequest now) s (fun _ s' => Idle s s') fun _ s' =>
      ∃ invoice record, self.parseInvoice paymentRequest = .ok invoice ∧
        Marks (self.lightning.paymentHash invoice) record "external" 0 s s' ∧
        Settles none (self.lightning.paymentHash invoice) "external" s s' := by
  apply Ends.attempt_bind (fun _ _ => .refl s)
  intro invoice hparse
  apply Ends.get_bind
  apply Ends.attempt_bind (fun _ _ => .refl s)
  intro record hrecord
  apply Ends.attempt_bind (fun _ _ => .refl s)
  intro _ hpayable
  apply Ends.attempt_bind (fun _ _ => .refl s)
  intro _ _
  apply Ends.attempt_bind (fun _ _ => .refl s)
  intro reserve hreserve
  apply Ends.checkedAdd_bind (fun _ => .refl s)
  intro fundedReserve hfunded
  apply Ends.checkedAdd_bind (fun _ => .refl s)
  intro externalFundingSat hexternal
  apply Ends.modify_bind
  apply Ends.modify_bind
  apply Ends.pure
  have hreserve : s.reserves[record.recipientMint]? = some reserve := okOr_eq_ok.mp hreserve
  have hsum := BTreeMap.sumOf_insert_some UInt64.toNat fundedReserve hreserve
  have hknown := BTreeMap.mem_of_getElem? hreserve
  have hfound := okOr_eq_ok.mp hrecord
  have hunpaid := ensureInvoicePayable_ok hpayable
  refine ⟨invoice, record, hparse, ⟨hfound, hunpaid, rfl⟩, ?_⟩
  exact {
    marks := ⟨record, _, hfound, hunpaid, rfl, rfl⟩
    nextInvoice := rfl
    modes := rfl
    accounts := fun _ => BTreeMap.mem_insert_of_mem _ hknown
    balance := by
      simp only [NetworkState.totalReserve]
      omega
    others := fun mintId old _ hold => credit_le hreserve (by omega) hold }

theorem pay_spec (payer : String) (mode : IssuerMode) (unit : CurrencyUnit)
    (options : OutgoingPaymentOptions self.lightning.Invoice) (now : UInt64) (s : NetworkState) :
    Ends (self.pay payer mode unit options now) s (fun _ s' => Idle s s') fun response s' =>
      mode = .withdrawable ∧ (∃ record,
        Marks response.paymentLookupId record payer self.feeSat s s' ∧
          response.totalSpent.unit = .sat ∧ response.totalSpent.value.toNat =
            record.amountSat.toNat + self.feeSat.toNat) ∧
        Settles (some payer) response.paymentLookupId payer s s' := by
  apply Ends.attempt_bind (fun _ _ => .refl s)
  intro _ hmode
  have hmode : mode = .withdrawable := by
    cases mode with
    | closedLoop => simp [ensureWithdrawable] at hmode
    | withdrawable => rfl
  apply Ends.attempt_bind (fun _ _ => .refl s)
  intro _ _
  apply Ends.attempt_bind (fun _ _ => .refl s)
  intro ⟨invoice, amountSat, maxFeeSat⟩ _
  apply Ends.attempt_bind (fun _ _ => .refl s)
  intro _ _
  apply Ends.checkedAdd_bind (fun _ => .refl s)
  intro totalSpentSat hspent
  apply Ends.get_bind
  apply Ends.attempt_bind (fun _ _ => .refl s)
  intro _ _
  apply Ends.attempt_bind (fun _ _ => .refl s)
  intro record hrecord
  apply Ends.attempt_bind (fun _ _ => .refl s)
  intro _ hpayable
  apply Ends.attempt_bind (fun _ _ => .refl s)
  intro _ hamount
  apply Ends.attempt_bind (fun _ _ => .refl s)
  intro _ _
  apply Ends.attempt_bind (fun _ _ => .refl s)
  intro payerReserve hpayer
  apply Ends.attempt_bind (fun _ _ => .refl s)
  intro payerAfterDebit hdebit
  apply Ends.attempt_bind (fun _ _ => .refl s)
  intro recipientReserve hrecipient
  apply Ends.attempt_bind (fun _ _ => .refl s)
  intro recipientAfterCredit hcredit
  apply Ends.checkedAdd_bind (fun _ => .refl s)
  intro feeSinkSat hfee
  apply Ends.modify_bind
  apply Ends.modify_bind
  apply Ends.pure
  have hfound := okOr_eq_ok.mp hrecord
  have hunpaid := ensureInvoicePayable_ok hpayable
  have hamount : amountSat = record.amountSat := by simpa [ensureAmount] using hamount
  refine ⟨hmode, ⟨record, ⟨hfound, hunpaid, rfl⟩, rfl, by rw [← hamount]; exact hspent⟩, ?_⟩
  have hpayer : s.reserves[payer]? = some payerReserve := okOr_eq_ok.mp hpayer
  have hrecipient : s.reserves[record.recipientMint]? = some recipientReserve :=
    okOr_eq_ok.mp hrecipient
  have hdebit := UInt64.checkedSub_eq_some.mp (okOr_eq_ok.mp hdebit)
  have hmoved : MovesReserve payer totalSpentSat.toNat amountSat.toNat s.reserves
      (if payer = record.recipientMint then s.reserves.insert payer recipientAfterCredit
        else (s.reserves.insert payer payerAfterDebit).insert record.recipientMint
          recipientAfterCredit) := by
    by_cases hself : payer = record.recipientMint
    · simp only [hself, if_true, okOr_eq_ok, UInt64.checkedAdd_eq_some] at hcredit ⊢
      exact movesReserve_self (hself ▸ hpayer) (by omega)
    · simp only [hself, if_false, okOr_eq_ok, UInt64.checkedAdd_eq_some] at hcredit ⊢
      exact movesReserve_other hself hpayer hrecipient (by omega) hcredit
  exact {
    marks := ⟨record, _, hfound, hunpaid, rfl, rfl⟩
    nextInvoice := rfl
    modes := rfl
    accounts := hmoved.accounts
    balance := by
      have htotal := hmoved.total
      simp only [NetworkState.totalReserve]
      omega
    others := fun mintId reserve hother hreserve =>
      hmoved.others mintId reserve (fun heq => hother (congrArg some heq)) hreserve }

end PaymentNetwork

/-- What one call can do to the world. -/
inductive Change (self : PaymentNetwork) (w : World) : World → Prop where
  | idle {s' : NetworkState} (h : Idle w.state s') : Change self w { w with state := s' }
  | returns {mintId : String} {mode : IssuerMode} (h : w.state.modes[mintId]? = some mode) :
    Change self w { w with backends := w.backends ++ [⟨mintId, mode⟩] }
  | opens {mintId : String} {mode : IssuerMode} (online : BTreeMap String Bool)
      (events : BTreeMap String (List WaitPaymentResponse))
      (h : w.state.modes[mintId]? = none) :
    Change self w {
      w with
      backends := w.backends ++ [⟨mintId, mode⟩]
      state := {
        w.state with
        modes := w.state.modes.insert mintId mode
        reserves := w.state.reserves.insert mintId 0
        online := online
        events := events } }
  | registers {mintId : String} {nextInvoice : UInt64} {record : InvoiceRecord}
      (hnext : nextInvoice.toNat = w.state.nextInvoice.toNat + 1) (hunpaid : record.paidBy = none) :
    Change self w {
      w with
      created := w.created ++ [(w.state.nextInvoice, mintId)]
      state := {
        w.state with
        nextInvoice := nextInvoice
        invoices := Function.update w.state.invoices
          (self.paymentHashOf w.state.nextInvoice mintId) (some record) } }
  | funds {paymentHash : PaymentHash} {s' : NetworkState}
      (h : Settles none paymentHash "external" w.state s') :
    Change self w {
      w with state := s', payments := w.payments ++ [(paymentHash, "external")] }
  | pays {backend : SimMintPayment} {paymentHash : PaymentHash} {s' : NetworkState}
      (hbackend : backend ∈ w.backends) (hmode : backend.mode = .withdrawable)
      (h : Settles (some backend.mintId) paymentHash backend.mintId w.state s') :
    Change self w {
      w with state := s', payments := w.payments ++ [(paymentHash, backend.mintId)] }

theorem withBackend_spec {backend : Nat} {use : SimMintPayment → WorldM Unit} {w : World}
    {err : PaymentError → World → Prop} {ok : Unit → World → Prop} (hnone : ok () w)
    (huse : ∀ payment ∈ w.backends, Ends (use payment) w err ok) :
    Ends (withBackend backend use) w err ok := by
  apply Ends.get_bind
  cases h : w.backends[backend]? with
  | none => exact Ends.pure hnone
  | some payment => exact huse payment (List.mem_of_getElem? h)

namespace PaymentNetwork

variable {self : PaymentNetwork}

theorem apply_spec (call : Call self.lightning.Invoice) (w : World) :
    Ends (self.apply call) w (fun _ w' => ∃ s', Idle w.state s' ∧ w' = { w with state := s' })
      fun _ w' => Change self w w' := by
  have hidle : ∀ s', Idle w.state s' → Change self w { w with state := s' } := fun _ => .idle
  cases call with
  | paymentBackend mintId mode =>
    apply Ends.bind
    apply Ends.zoom
    apply (paymentBackend_spec mintId mode w.state).imp (fun _ s' h => ⟨s', h, rfl⟩)
    intro backend s' h
    obtain ⟨rfl, h | h⟩ := h
    · obtain ⟨hmode, rfl⟩ := h
      exact Ends.modify (.returns hmode)
    · obtain ⟨hfresh, online, events, rfl⟩ := h
      exact Ends.modify (.opens online events hfresh)
  | setOnline mintId online =>
    apply Ends.zoom
    apply (setOnline_spec mintId online w.state).imp (fun _ s' h => ⟨s', h, rfl⟩)
    intro _ s' h
    exact hidle s' h
  | createInvoice backend amountSat description requestedExpiry now =>
    apply withBackend_spec (hidle _ (.refl _))
    intro payment _
    apply Ends.get_bind
    apply Ends.bind
    apply Ends.zoom
    apply (createInvoice_spec payment.mintId amountSat description requestedExpiry now w.state).imp
      (fun _ s' h => ⟨s', h, rfl⟩)
    intro _ s' h
    obtain ⟨nextInvoice, expiresAt, hnext, -, rfl⟩ := h
    exact Ends.modify (.registers hnext rfl)
  | settleExternal paymentRequest now =>
    apply Ends.attempt_bind (fun _ _ => ⟨w.state, .refl _, rfl⟩)
    intro invoice hparse
    apply Ends.bind
    apply Ends.zoom
    apply (settleExternal_spec paymentRequest now w.state).imp (fun _ s' h => ⟨s', h, rfl⟩)
    intro _ s' h
    obtain ⟨invoice', record, hparse', -, h⟩ := h
    rw [hparse, Except.ok.injEq] at hparse'
    subst invoice'
    exact Ends.modify (.funds h)
  | quote backend unit options now =>
    apply withBackend_spec (hidle _ (.refl _))
    intro payment _
    apply Ends.bind
    apply Ends.zoom
    apply (quote_spec payment.mode unit options now w.state).imp (fun _ s' h => ⟨s', h, rfl⟩)
    intro _ s' h
    exact Ends.pure (hidle s' h)
  | pay backend unit options now =>
    apply withBackend_spec (hidle _ (.refl _))
    intro payment hbackend
    apply Ends.bind
    apply Ends.zoom
    apply (pay_spec payment.mintId payment.mode unit options now w.state).imp
      (fun _ s' h => ⟨s', h, rfl⟩)
    intro _ s' h
    obtain ⟨hmode, -, hsettles⟩ := h
    exact Ends.modify (.pays hbackend hmode hsettles)

theorem step_change (w : World) (call : Call self.lightning.Invoice) :
    Change self w (self.step w call) := by
  have h := apply_spec call w
  unfold step
  cases hr : self.apply call w with
  | ok _ w' => exact h.of_ok hr
  | error _ w' =>
    obtain ⟨s', hidle, rfl⟩ := h.of_error hr
    exact .idle hidle

end PaymentNetwork

/-- The books of a network: every mint has one account, and what is in the accounts and in the
fee sink is what came in. -/
structure Balanced (s : NetworkState) : Prop where
  accounts : ∀ mintId, mintId ∈ s.reserves ↔ mintId ∈ s.modes
  total : s.totalReserve + s.feeSinkSat.toNat = s.externalFundingSat.toNat

def Registered (w : World) : Prop :=
  ∀ backend ∈ w.backends, w.state.modes[backend.mintId]? = some backend.mode

/-- No two registered invoices have one payment hash. -/
def DistinctHashes (self : PaymentNetwork) (w : World) : Prop :=
  Set.InjOn (fun invoice : UInt64 × String => self.paymentHashOf invoice.1 invoice.2)
    {invoice | invoice ∈ w.created}

/-- The invoices that are marked as paid are those that were paid, each once and by one payer. -/
structure PaidOnce (w : World) : Prop where
  once : (w.payments.map Prod.fst).Nodup
  marked : ∀ paymentHash payer, (paymentHash, payer) ∈ w.payments ↔
    ∃ record, w.state.invoices paymentHash = some record ∧ record.paidBy = some payer

structure Numbered (network : PaymentNetwork) (w : World) : Prop where
  used : ∀ invoice ∈ w.created, invoice.1 < w.state.nextInvoice
  hashes : ∀ paymentHash record, w.state.invoices paymentHash = some record →
    ∃ invoice ∈ w.created, paymentHash = network.paymentHashOf invoice.1 invoice.2

section

variable {self : PaymentNetwork} {w w' : World}

theorem Settles.balanced {debited : Option String} {paymentHash : PaymentHash} {payer : String}
    {s s' : NetworkState} (h : Settles debited paymentHash payer s s') (hs : Balanced s) :
    Balanced s' where
  accounts := fun mintId => by rw [h.accounts, hs.accounts, h.modes]
  total := by
    have hbalance := h.balance
    have htotal := hs.total
    omega

theorem Change.balanced (h : Change self w w') (hs : Balanced w.state) : Balanced w'.state := by
  cases h with
  | idle h =>
    obtain ⟨nextInvoice, online, -, rfl⟩ := h
    exact ⟨hs.accounts, hs.total⟩
  | returns _ => exact hs
  | @opens mintId mode online events h =>
    have hnew : w.state.reserves[mintId]? = none := by
      rw [BTreeMap.getElem?_eq_none_iff] at h ⊢
      exact mt (hs.accounts mintId).mp h
    have hsum := BTreeMap.sumOf_insert UInt64.toNat 0 hnew
    have htotal := hs.total
    have hzero : (0 : UInt64).toNat = 0 := rfl
    refine ⟨?_, ?_⟩
    · intro other
      rw [Std.ExtTreeMap.mem_insert, Std.ExtTreeMap.mem_insert, hs.accounts]
    · simp only [NetworkState.totalReserve] at htotal ⊢
      omega
  | registers _ _ => exact ⟨hs.accounts, hs.total⟩
  | funds h => exact h.balanced hs
  | pays _ _ h => exact h.balanced hs

theorem Change.modes (h : Change self w w') : w'.state.modes.Extends w.state.modes := by
  cases h with
  | idle h =>
    obtain ⟨nextInvoice, online, -, rfl⟩ := h
    exact .refl _
  | returns _ => exact .refl _
  | opens _ _ h => exact BTreeMap.Extends.insert _ h
  | registers _ _ => exact .refl _
  | funds h => exact h.modes ▸ .refl _
  | pays _ _ h => exact h.modes ▸ .refl _

theorem registered_append {s' : NetworkState} {payment : SimMintPayment}
    (hold : ∀ backend ∈ w.backends, s'.modes[backend.mintId]? = some backend.mode)
    (hnew : s'.modes[payment.mintId]? = some payment.mode) :
    Registered { w with backends := w.backends ++ [payment], state := s' } := by
  intro backend hb
  simp only [List.mem_append, List.mem_singleton] at hb
  cases hb with
  | inl hb => exact hold backend hb
  | inr hb =>
    subst backend
    exact hnew

theorem Change.registered (h : Change self w w') (hw : Registered w) : Registered w' := by
  have hold : ∀ backend ∈ w.backends, w'.state.modes[backend.mintId]? = some backend.mode :=
    fun backend hb => h.modes _ _ (hw backend hb)
  cases h with
  | idle _ => exact hold
  | returns hmode => exact registered_append hold hmode
  | opens _ _ _ => exact registered_append hold (BTreeMap.getElem?_insert_self _ _ _)
  | registers _ _ => exact hold
  | funds _ => exact hold
  | pays _ _ _ => exact hold

theorem Change.closedLoop (h : Change self w w') (hw : Registered w)
    {mintId : String} {reserve : UInt64} (hmode : w.state.modes[mintId]? = some .closedLoop)
    (hreserve : w.state.reserves[mintId]? = some reserve) :
    ∃ reserve', w'.state.reserves[mintId]? = some reserve' ∧ reserve ≤ reserve' := by
  have hsame : ∃ reserve', w.state.reserves[mintId]? = some reserve' ∧ reserve ≤ reserve' :=
    ⟨reserve, hreserve, UInt64.le_refl reserve⟩
  cases h with
  | idle h =>
    obtain ⟨nextInvoice, online, -, rfl⟩ := h
    exact hsame
  | returns _ => exact hsame
  | @opens newMint mode online events h =>
    have hne : newMint ≠ mintId := by
      intro heq
      simp [heq, hmode] at h
    exact ⟨reserve, by rw [← hreserve]; exact BTreeMap.getElem?_insert_ne _ _ hne,
      UInt64.le_refl reserve⟩
  | registers _ _ => exact hsame
  | funds h => exact h.others mintId reserve (by simp) hreserve
  | @pays backend paymentHash s' hbackend hwithdrawable h =>
    refine h.others mintId reserve ?_ hreserve
    intro heq
    have hreg := hw backend hbackend
    rw [Option.some.inj heq, hmode, hwithdrawable] at hreg
    simp at hreg

theorem Settles.numbered {debited : Option String} {paymentHash : PaymentHash} {payer : String}
    {s' : NetworkState} (h : Settles debited paymentHash payer w.state s') (hw : Numbered self w)
    (payments : List (PaymentHash × String)) :
    Numbered self { w with state := s', payments := payments } where
  used := fun invoice hi => by
    rw [h.nextInvoice]
    exact hw.used invoice hi
  hashes := fun other record hrecord => by
    obtain ⟨old, new, hold, -, -, hinvoices⟩ := h.marks
    simp only [hinvoices] at hrecord
    by_cases ho : other = paymentHash
    · subst other
      exact hw.hashes _ _ hold
    · rw [Function.update_of_ne ho] at hrecord
      exact hw.hashes _ _ hrecord

theorem Change.numbered (h : Change self w w') (hw : Numbered self w) : Numbered self w' := by
  cases h with
  | idle h =>
    obtain ⟨nextInvoice, online, hle, rfl⟩ := h
    exact ⟨fun invoice hi => UInt64.lt_of_lt_of_le (hw.used invoice hi) hle, hw.hashes⟩
  | returns _ => exact ⟨hw.used, hw.hashes⟩
  | opens _ _ _ => exact ⟨hw.used, hw.hashes⟩
  | @registers mintId nextInvoice record hnext hunpaid =>
    refine ⟨?_, ?_⟩
    · intro invoice hi
      change invoice.1 < nextInvoice
      rw [UInt64.lt_iff_toNat_lt]
      simp only [List.mem_append, List.mem_singleton] at hi
      cases hi with
      | inl hi =>
        have hlt := UInt64.lt_iff_toNat_lt.mp (hw.used invoice hi)
        omega
      | inr hi =>
        simp only [hi]
        omega
    · intro other r hr
      by_cases ho : other = self.paymentHashOf w.state.nextInvoice mintId
      · exact ⟨(w.state.nextInvoice, mintId), by simp, ho⟩
      · simp only [Function.update_of_ne ho] at hr
        obtain ⟨invoice, hi, heq⟩ := hw.hashes other r hr
        exact ⟨invoice, List.mem_append_left _ hi, heq⟩
  | funds h => exact h.numbered hw _
  | pays _ _ h => exact h.numbered hw _

theorem Settles.paidOnce {debited : Option String} {paymentHash : PaymentHash} {payer : String}
    {s' : NetworkState} (h : Settles debited paymentHash payer w.state s') (hw : PaidOnce w) :
    PaidOnce { w with state := s', payments := w.payments ++ [(paymentHash, payer)] } := by
  obtain ⟨old, new, hold, hunpaid, hpaid, hinvoices⟩ := h.marks
  have hfresh : ∀ other, (paymentHash, other) ∉ w.payments := by
    intro other hmem
    obtain ⟨record, hrecord, hby⟩ := (hw.marked _ _).mp hmem
    rw [hold, Option.some.injEq] at hrecord
    rw [← hrecord, hunpaid] at hby
    contradiction
  refine ⟨?_, ?_⟩
  · rw [List.map_append, List.nodup_append]
    refine ⟨hw.once, by simp, ?_⟩
    intro other ho other' ho' heq
    obtain ⟨⟨paidHash, paidBy⟩, hmem, rfl⟩ := List.mem_map.mp ho
    simp only [List.map_cons, List.map_nil, List.mem_singleton] at ho'
    exact hfresh paidBy (by rwa [← ho', ← heq])
  · intro other by'
    rw [List.mem_append, List.mem_singleton, hw.marked]
    simp only [hinvoices]
    by_cases ho : other = paymentHash
    · subst other
      simp [hold, hunpaid, hpaid, eq_comm]
    · simp [ho]

theorem Numbered.fresh (hn : Numbered self w) {mintId : String}
    (hcreated : w'.created = w.created ++ [(w.state.nextInvoice, mintId)])
    (hdistinct : DistinctHashes self w') :
    w.state.invoices (self.paymentHashOf w.state.nextInvoice mintId) = none := by
  by_contra hne
  obtain ⟨r, hr⟩ := Option.ne_none_iff_exists'.mp hne
  obtain ⟨invoice, hi, heq⟩ := hn.hashes _ _ hr
  have hnew : (w.state.nextInvoice, mintId) ∈ w'.created := by simp [hcreated]
  have hold : invoice ∈ w'.created := by simp [hcreated, hi]
  have hsame : (w.state.nextInvoice, mintId) = invoice := hdistinct hnew hold heq
  have hlt := hn.used invoice hi
  rw [← hsame] at hlt
  exact UInt64.lt_irrefl _ hlt

theorem Change.paidOnce (h : Change self w w') (hn : Numbered self w)
    (hdistinct : DistinctHashes self w') (hw : PaidOnce w) : PaidOnce w' := by
  cases h with
  | idle h =>
    obtain ⟨nextInvoice, online, -, rfl⟩ := h
    exact ⟨hw.once, hw.marked⟩
  | returns _ => exact ⟨hw.once, hw.marked⟩
  | opens _ _ _ => exact ⟨hw.once, hw.marked⟩
  | @registers mintId nextInvoice record hnext hunpaid =>
    have hfresh := @Numbered.fresh self w _ hn mintId rfl hdistinct
    refine ⟨hw.once, ?_⟩
    intro other payer
    rw [hw.marked]
    by_cases ho : other = self.paymentHashOf w.state.nextInvoice mintId
    · subst other
      simp [hfresh, hunpaid]
    · simp [Function.update_of_ne ho]
  | funds h => exact h.paidOnce hw
  | pays _ _ h => exact h.paidOnce hw

end

theorem Balanced.entries {s : NetworkState} (hs : Balanced s) :
    s.reserves.toList = s.modes.toList.map fun e => (e.1, (s.reserves[e.1]?).getD 0) := by
  apply BTreeMap.eq_of_ordered Std.ExtTreeMap.ordered_keys_toList
  · exact List.pairwise_map.mpr Std.ExtTreeMap.ordered_keys_toList
  · intro e
    obtain ⟨mintId, reserve⟩ := e
    rw [BTreeMap.mem_entries, List.mem_map]
    constructor
    · intro h
      have hmode := (hs.accounts mintId).mp (BTreeMap.mem_of_getElem? h)
      obtain ⟨mode, hmode⟩ := BTreeMap.mem_iff_exists.mp hmode
      exact ⟨(mintId, mode), BTreeMap.mem_entries.mpr hmode, by simp [h]⟩
    · intro h
      obtain ⟨⟨mintId', mode⟩, hmem, heq⟩ := h
      have hmode := BTreeMap.mem_of_getElem? (BTreeMap.mem_entries.mp hmem)
      obtain ⟨reserve', hreserve⟩ := BTreeMap.mem_iff_exists.mp ((hs.accounts mintId').mpr hmode)
      simp only [hreserve, Option.getD_some, Prod.mk.injEq] at heq
      rw [← heq.1, ← heq.2, hreserve]

/-- The snapshot lists every mint with its mode and its reserve, and adds them up. -/
structure SettlementAccountingSnapshot.Tells (snapshot : SettlementAccountingSnapshot)
    (s : NetworkState) : Prop where
  mints : ∀ mint, mint ∈ snapshot.mints ↔
    s.modes[mint.mintId]? = some mint.mode ∧ s.reserves[mint.mintId]? = some mint.reserveSat
  sorted : snapshot.mints.Pairwise fun mint mint' => compare mint.mintId mint'.mintId = .lt
  reserves : snapshot.totalReserveSat.toNat = s.totalReserve
  feeSink : snapshot.feeSinkSat = s.feeSinkSat
  accounted : snapshot.totalAccountedSat.toNat = s.totalReserve + s.feeSinkSat.toNat
  funding : snapshot.externalFundingSat = s.externalFundingSat

theorem Balanced.accounting {s : NetworkState} (hs : Balanced s) :
    ∃ snapshot, accounting s = .ok snapshot ∧ snapshot.isConserved = true ∧ snapshot.Tells s := by
  have hsize : s.reserves.size = s.modes.size := by
    rw [← Std.ExtTreeMap.length_toList, hs.entries, List.length_map, Std.ExtTreeMap.length_toList]
  let row (e : String × IssuerMode) : MintReserveSnapshot :=
    ⟨e.1, e.2, (s.reserves[e.1]?).getD 0⟩
  have hrow : ∀ e ∈ s.modes.toList, (okOr s.reserves[e.1]?
      (PaymentError.custom "mint has no reserve account") >>= fun reserveSat =>
        pure (⟨e.1, e.2, reserveSat⟩ : MintReserveSnapshot)) = .ok (row e) := by
    intro e he
    have hmode := BTreeMap.mem_of_getElem? (BTreeMap.mem_entries.mp he)
    obtain ⟨reserve, hreserve⟩ := BTreeMap.mem_iff_exists.mp ((hs.accounts e.1).mpr hmode)
    simp only [row, hreserve]
    rfl
  have hsum : ((s.modes.toList.map row).map fun mint => mint.reserveSat.toNat).sum =
      s.totalReserve := by
    rw [NetworkState.totalReserve, BTreeMap.sumOf, hs.entries, List.map_map, List.map_map]
    rfl
  have hfits := hs.total
  have hbound := s.externalFundingSat.toNat_lt
  obtain ⟨totalReserveSat, hfold, htotal⟩ := foldlM_checkedAdd (l := s.modes.toList.map row)
    MintReserveSnapshot.reserveSat (PaymentError.custom "total reserve overflow") 0
    (by rw [hsum]; simp; omega)
  rw [hsum] at htotal
  have hzero : (0 : UInt64).toNat = 0 := rfl
  have haccounted := UInt64.checkedAdd_of_fits (a := totalReserveSat) (b := s.feeSinkSat) (by omega)
  have hequal := UInt64.checkedAdd_eq_some.mp haccounted
  refine ⟨⟨s.modes.toList.map row, totalReserveSat, s.feeSinkSat, totalReserveSat + s.feeSinkSat,
    s.externalFundingSat⟩, ?_, ?_, ?_⟩
  · simp only [CashuService.accounting, Except.bind_eq_ok]
    simp only [rejectIf_eq_ok, okOr_eq_ok, exists_const, Except.pure_eq_ok, not_not, ne_eq]
    exact ⟨hsize, _, mapM_eq_ok_map hrow, _, hfold, _, haccounted, rfl⟩
  · simp only [SettlementAccountingSnapshot.isConserved, beq_iff_eq]
    exact UInt64.toNat_inj.mp (by omega)
  · have hreserves : totalReserveSat.toNat = s.totalReserve := by omega
    have hsum : (totalReserveSat + s.feeSinkSat).toNat =
        s.totalReserve + s.feeSinkSat.toNat := by omega
    refine ⟨fun mint => ?_, List.pairwise_map.mpr Std.ExtTreeMap.ordered_keys_toList, hreserves,
      rfl, hsum, rfl⟩
    rw [List.mem_map]
    constructor
    · rintro ⟨e, he, rfl⟩
      have hmode := BTreeMap.mem_entries.mp he
      obtain ⟨reserve, hreserve⟩ := BTreeMap.mem_iff_exists.mp
        ((hs.accounts e.1).mpr (BTreeMap.mem_of_getElem? hmode))
      exact ⟨hmode, by simp [row, hreserve]⟩
    · rintro ⟨hmode, hreserve⟩
      exact ⟨(mint.mintId, mint.mode), BTreeMap.mem_entries.mpr hmode, by simp [row, hreserve]⟩

structure SameValue (s s' : NetworkState) : Prop where
  reserves : s'.reserves = s.reserves
  feeSinkSat : s'.feeSinkSat = s.feeSinkSat
  externalFundingSat : s'.externalFundingSat = s.externalFundingSat
  invoices : s'.invoices = s.invoices

theorem Idle.sameValue {s s' : NetworkState} (h : Idle s s') : SameValue s s' := by
  obtain ⟨nextInvoice, online, -, rfl⟩ := h
  exact ⟨rfl, rfl, rfl, rfl⟩

theorem Change.created {self : PaymentNetwork} {w w' : World} (h : Change self w w') :
    w.created ⊆ w'.created := by
  cases h with
  | registers _ _ => exact List.subset_append_left _ _
  | idle _ => exact List.Subset.refl _
  | returns _ => exact List.Subset.refl _
  | opens _ _ _ => exact List.Subset.refl _
  | funds _ => exact List.Subset.refl _
  | pays _ _ _ => exact List.Subset.refl _

structure Sound (network : PaymentNetwork) (w : World) : Prop where
  balanced : Balanced w.state
  registered : Registered w
  numbered : Numbered network w

namespace PaymentNetwork

variable {self : PaymentNetwork}

theorem sound_start : Sound self {} where
  balanced := ⟨fun _ => Iff.rfl, rfl⟩
  registered := fun _ hb => absurd hb List.not_mem_nil
  numbered := ⟨fun _ hi => absurd hi List.not_mem_nil, fun _ _ h => by contradiction⟩

theorem sound_step {w : World} (hw : Sound self w) (call : Call self.lightning.Invoice) :
    Sound self (self.step w call) :=
  have h := step_change w call
  ⟨h.balanced hw.balanced, h.registered hw.registered, h.numbered hw.numbered⟩

theorem sound_foldl {w : World} (hw : Sound self w) (calls : List (Call self.lightning.Invoice)) :
    Sound self (calls.foldl self.step w) := by
  induction calls generalizing w with
  | nil => exact hw
  | cons call calls ih => exact ih (sound_step hw call)

theorem created_foldl (w : World) (calls : List (Call self.lightning.Invoice)) :
    w.created ⊆ (calls.foldl self.step w).created := by
  induction calls generalizing w with
  | nil => exact List.Subset.refl _
  | cons call calls ih =>
    exact List.Subset.trans (step_change w call).created (ih (self.step w call))

theorem paidOnce_foldl {w : World} (hw : Sound self w) (hp : PaidOnce w)
    (calls : List (Call self.lightning.Invoice))
    (hdistinct : DistinctHashes self (calls.foldl self.step w)) :
    PaidOnce (calls.foldl self.step w) := by
  induction calls generalizing w with
  | nil => exact hp
  | cons call calls ih =>
    have hnow : DistinctHashes self (self.step w call) :=
      hdistinct.mono fun _ hi => created_foldl _ calls hi
    have hpaid := (step_change w call).paidOnce hw.numbered hnow hp
    exact ih (sound_step hw call) hpaid hdistinct

theorem closedLoop_foldl {w : World} (hw : Sound self w) {mintId : String} {reserve : UInt64}
    (hmode : w.state.modes[mintId]? = some .closedLoop)
    (hreserve : w.state.reserves[mintId]? = some reserve)
    (calls : List (Call self.lightning.Invoice)) :
    ∃ reserve', (calls.foldl self.step w).state.reserves[mintId]? = some reserve' ∧
      reserve ≤ reserve' := by
  induction calls generalizing w reserve with
  | nil => exact ⟨reserve, hreserve, UInt64.le_refl reserve⟩
  | cons call calls ih =>
    have h := step_change w call
    obtain ⟨next, hnext, hle⟩ := h.closedLoop hw.registered hmode hreserve
    obtain ⟨reserve', hreserve', hle'⟩ := ih (sound_step hw call) (h.modes _ _ hmode) hnext
    exact ⟨reserve', hreserve', UInt64.le_trans hle hle'⟩

/-- The network conserves value, over any run: its books balance and can be closed, an invoice is
paid at most once, a closed-loop mint never pays out, and an error moves nothing. -/
theorem conserves_value (self : PaymentNetwork) (calls : List (Call self.lightning.Invoice)) :
    ((self.run calls).state.totalReserve + (self.run calls).state.feeSinkSat.toNat =
        (self.run calls).state.externalFundingSat.toNat) ∧
      (∃ snapshot, accounting (self.run calls).state = .ok snapshot ∧
        snapshot.isConserved = true ∧ snapshot.Tells (self.run calls).state) ∧
      (DistinctHashes self (self.run calls) → PaidOnce (self.run calls)) ∧
      (∀ (mintId : String) (reserve : UInt64) (later : List (Call self.lightning.Invoice)),
        (self.run calls).state.modes[mintId]? = some IssuerMode.closedLoop →
        (self.run calls).state.reserves[mintId]? = some reserve →
        ∃ reserve', (self.run (calls ++ later)).state.reserves[mintId]? = some reserve' ∧
          reserve ≤ reserve') ∧
      ∀ call e w', self.apply call (self.run calls) = .error e w' →
        SameValue (self.run calls).state w'.state := by
  have hw : Sound self (self.run calls) := sound_foldl sound_start calls
  have hstart : PaidOnce ({} : World) := ⟨List.nodup_nil, by simp⟩
  refine ⟨hw.balanced.total, hw.balanced.accounting, ?_, ?_, ?_⟩
  · intro hdistinct
    exact paidOnce_foldl sound_start hstart calls hdistinct
  · intro mintId reserve later hmode hreserve
    rw [run, List.foldl_append]
    exact closedLoop_foldl hw hmode hreserve later
  · intro call e w' herror
    obtain ⟨s', hidle, rfl⟩ := (apply_spec call _).of_error herror
    exact hidle.sameValue

end PaymentNetwork
end CashuService

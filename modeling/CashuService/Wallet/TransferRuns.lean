import CashuService.Wallet.CashuSettlement
import CashuService.Wallet.TransferSafety
set_option autoImplicit false

namespace CashuService

/-! Transfers and resumed transfers on one data directory, one after the other, with any requests
and whatever becomes of the calls they make. -/

inductive TransferCall where
  | transfer (request : CashuCrossMintTransferRequest)
  | resume (request : CashuCrossMintTransferRequest)
  | settle (authorization : ExternalSettlementAuthorization) (route : CashuIssuerRoute)
      (nowUnix : UInt64)
  deriving DecidableEq, Repr

namespace TransferCall

variable (crates : TransferCrates)

def run : TransferCall → TransferM CashuCrossMintTransfer
  | transfer request => transferBetweenMints crates request
  | resume request => resumeTransferBetweenMints crates request
  | settle authorization route nowUnix =>
    executeCashuSettlement crates authorization route nowUnix

/-- Whether the call may start a payment: a settlement may until its deadline. -/
def allowNew : TransferCall → Bool
  | transfer _ => true
  | resume _ => false
  | settle authorization _ nowUnix => nowUnix < authorization.expiresAtUnix

/-- The normalized request of a call. -/
def request : TransferCall → Except Anyhow CashuCrossMintTransferRequest
  | transfer request | resume request => normalizeCrossMintTransferRequest crates.url request
  | settle authorization route _ => do
    let request ← bindCashuSettlement crates.url authorization route
    normalizeCrossMintTransferRequest crates.url request

end TransferCall

def Issued.quote (self : Issued) : Option String := self.call.payment.map Prod.fst

namespace TransferStore

def empty : TransferStore := ⟨fun _ => none, [], []⟩

variable (crates : TransferCrates)

/-- The store after a call, wherever the call ends or is stopped. -/
def exec (self : TransferStore) (call : TransferCall) (replies : List (Reply WalletAnswer)) :
    TransferStore :=
  leaves (call.run crates ⟨self, replies⟩)

/-- The store after a sequence of calls. Both locks are held throughout a call, so the calls of
any number of clients come one after the other. -/
def after (self : TransferStore) (calls : List (TransferCall × List (Reply WalletAnswer))) :
    TransferStore :=
  calls.foldl (fun store call => store.exec crates call.1 call.2) self

/-- If a quote is paid at most once, then so is a transfer: among the payments that were issued,
whichever of them went through. -/
def PaysOnce (self : TransferStore) : Prop :=
  ∀ paid : List Issued, paid.Sublist self.issued → (∀ issued ∈ paid, issued.quote.isSome) →
    (paid.Pairwise fun a b => a.quote ≠ b.quote) →
    paid.Pairwise fun a b => a.transferId ≠ b.transferId

end TransferStore

section

variable {crates : TransferCrates} {Q : WalletAnswer → Prop}
  {err : TransferError → TransferStore → Prop}
  {ok : CashuCrossMintTransfer → TransferStore → Prop} {store : TransferStore}

theorem ensureSatWallet_on (herr : ∀ e, err e store) :
    ActsOn Q ensureSatWallet store err fun _ store' => store' = store := by
  apply observe_bind_on herr
  intro hasWallet _
  apply query_bind_on herr
  intro _ _
  exact query_on herr fun _ _ => rfl

theorem transferBetweenMintsWithStart_on {request : CashuCrossMintTransferRequest}
    {allowNew : Bool} (herr : ∀ e, err e store)
    (h : ∀ canonical destinationMint,
      normalizeCrossMintTransferRequest crates.url request = .ok canonical →
      ActsOn Q (transferBetweenWalletsWithStart crates canonical allowNew destinationMint) store
        err ok) :
    ActsOn Q (CashuWalletService.transferBetweenMintsWithStart crates request allowNew) store
      err ok := by
  apply fallible_bind_on herr
  intro canonical hcanonical
  apply fallible_bind_on herr
  intro _ _
  apply fallible_bind_on herr
  intro destinationMint _
  refine (ensureSatWallet_on herr).seq fun _ _ hsame => ?_
  subst hsame
  refine (ensureSatWallet_on herr).seq fun _ _ hsame => ?_
  subst hsame
  exact h canonical destinationMint hcanonical

theorem openedTransfer_on {request : CashuCrossMintTransferRequest} {allowNew : Bool}
    (herr : ∀ e, err e store)
    (h : ∀ canonical destinationMint,
      normalizeCrossMintTransferRequest crates.url request = .ok canonical →
      ActsOn Q (transferBetweenWalletsWithStart crates canonical allowNew destinationMint) store
        err ok) :
    ActsOn Q (openFileBacked >>= fun _ =>
      CashuWalletService.transferBetweenMintsWithStart crates request allowNew) store err ok := by
  apply observe_bind_on herr
  intro _ _
  exact transferBetweenMintsWithStart_on herr h

theorem TransferCall.run_on (call : TransferCall) (herr : ∀ e, err e store)
    (hrefused : ∀ transfer store', ok transfer store' → ∀ e, err e store')
    (h : ∀ canonical destinationMint, call.request crates = .ok canonical →
      ActsOn Q (transferBetweenWalletsWithStart crates canonical call.allowNew destinationMint)
        store
        err ok) :
    ActsOn Q (call.run crates) store err ok := by
  cases call with
  | transfer request => exact openedTransfer_on herr h
  | resume request => exact openedTransfer_on herr h
  | settle authorization route nowUnix =>
    apply fallible_bind_on herr
    intro bound hbound
    have hrequest : ∀ canonical, normalizeCrossMintTransferRequest crates.url bound =
        .ok canonical → request crates (settle authorization route nowUnix) = .ok canonical := by
      intro canonical hcanonical
      simp only [request, hbound, Except.bind_eq_ok, Except.ok.injEq, exists_eq_left']
      exact hcanonical
    have hrun : ActsOn Q (if authorization.expiresAtUnix ≤ nowUnix then
        resumeTransferBetweenMints crates bound else transferBetweenMints crates bound) store
        err ok := by
      apply ActsOn.ite
      · intro hexpired
        have hallowed : allowNew (settle authorization route nowUnix) = false := by
          simpa [allowNew] using hexpired
        apply openedTransfer_on herr
        intro canonical destinationMint hcanonical
        exact hallowed ▸ h canonical destinationMint (hrequest canonical hcanonical)
      · intro hopen
        have hallowed : allowNew (settle authorization route nowUnix) = true := by
          simpa [allowNew] using hopen
        apply openedTransfer_on herr
        intro canonical destinationMint hcanonical
        exact hallowed ▸ h canonical destinationMint (hrequest canonical hcanonical)
    refine hrun.seq fun transfer store' htransfer => ?_
    apply bailIf_bind_on (hrefused transfer store' htransfer)
    intro _
    exact .pure htransfer

theorem TransferCall.run_acts (call : TransferCall) (herr : ∀ e, err e store)
    (hrefused : ∀ transfer store', ok transfer store' → ∀ e, err e store')
    (h : ∀ canonical destinationMint, call.request crates = .ok canonical →
      Acts (transferBetweenWalletsWithStart crates canonical call.allowNew destinationMint) store
        err ok) :
    Acts (call.run crates) store err ok :=
  acts_iff_on.mpr (call.run_on herr hrefused fun canonical destinationMint hcanonical =>
    acts_iff_on.mp (h canonical destinationMint hcanonical))

/-- A saga that is bound to another request stops a transfer before it asks for anything. -/
theorem transferBetweenWalletsWithStart_refuses {request : CashuCrossMintTransferRequest}
    {allowNew : Bool} {destinationMint : String} {bound : CashuCrossMintTransferSaga}
    (herr : ∀ e, err e store) (hbound : store.saga crates request.transferId = some bound)
    (hother : bound.request ≠ request) :
    Acts (transferBetweenWalletsWithStart crates request allowNew destinationMint) store err
      fun _ _ => False := by
  apply query_bind herr
  intro _
  apply query_bind herr
  intro _
  apply query_bind herr
  intro _
  refine Acts.seq (q := fun _ _ => False) ?_ fun _ _ h => h.elim
  refine (loadCrossMintTransferSaga_acts herr).seq fun found store' hfound => ?_
  obtain ⟨rfl, rfl⟩ := hfound
  rw [hbound]
  apply bailIf_bind herr
  intro hsame
  exact absurd (.inr hother) hsame

theorem TransferCall.run_refuses (call : TransferCall) {request : CashuCrossMintTransferRequest}
    {bound : CashuCrossMintTransferSaga} (hrequest : call.request crates = .ok request)
    (herr : ∀ e, err e store) (hbound : store.saga crates request.transferId = some bound)
    (hother : bound.request ≠ request) : Acts (call.run crates) store err fun _ _ => False := by
  apply call.run_acts herr
  · intro _ _ h
    contradiction
  · intro canonical destinationMint hcanonical
    rw [hrequest, Except.ok.injEq] at hcanonical
    subst canonical
    exact transferBetweenWalletsWithStart_refuses herr hbound hother

theorem TransferStore.Sound.kept (h : store.Sound crates) (allowNew : Bool) :
    Kept crates allowNew store store :=
  ⟨h, .refl, [], by simp, by simp⟩

namespace TransferStore

theorem exec_kept (hs : crates.Faithful) (h : store.Sound crates) (call : TransferCall)
    (replies : List (Reply WalletAnswer)) :
    Kept crates call.allowNew store (store.exec crates call replies) := by
  have hkept := h.kept call.allowNew
  refine (call.run_acts (fun _ => hkept) (fun _ _ hlater _ => hlater) ?_).leaves replies
  intro canonical destinationMint _
  exact transferBetweenWalletsWithStart_acts hs hkept

variable {calls later : List (TransferCall × List (Reply WalletAnswer))}

theorem after_sound (hs : crates.Faithful) (h : store.Sound crates) :
    (store.after crates calls).Sound crates := by
  induction calls generalizing store with
  | nil => exact h
  | cons call calls ih => exact ih (exec_kept hs h call.1 call.2).sound

theorem after_follows (hs : crates.Faithful) (h : store.Sound crates) :
    store.Follows crates (store.after crates calls) := by
  induction calls generalizing store with
  | nil => exact .refl
  | cons call calls ih =>
    have hkept := exec_kept hs h call.1 call.2
    exact hkept.follows.trans (ih hkept.sound)

theorem after_append : store.after crates (calls ++ later) =
    (store.after crates calls).after crates later := List.foldl_append

theorem empty_sound : empty.Sound crates where
  sagas := by simp [empty]
  written := by simp [empty]
  history := by simp [empty]
  payments := by simp [empty]

/-- Two payments of one transfer are for the same quote and for the same invoice. -/
theorem Sound.same_quote (h : store.Sound crates) {a b : Issued} (ha : a ∈ store.issued)
    (hb : b ∈ store.issued) (hid : a.transferId = b.transferId) {p q : String × MeltQuote}
    (hp : a.call.payment = some p) (hq : b.call.payment = some q) :
    p.1 = q.1 ∧ p.2.request = q.2.request := by
  obtain ⟨-, saga, -, hsaga, now, hnow, hgrows⟩ := h.payments a ha p.1 p.2 hp
  obtain ⟨-, saga', -, hsaga', now', hnow', hgrows'⟩ := h.payments b hb q.1 q.2 hq
  rw [← hid, hnow, Option.some.injEq] at hnow'
  subst now'
  have hquote := hgrows'.meltQuote _ hsaga'.quote
  have hinvoice := hgrows'.invoice _ hsaga'.invoice
  rw [hgrows.meltQuote _ hsaga.quote, Option.some.injEq] at hquote
  rw [hgrows.invoice _ hsaga.invoice, Option.some.injEq] at hinvoice
  exact ⟨hquote, hinvoice⟩

theorem Sound.paysOnce (h : store.Sound crates) : store.PaysOnce := by
  intro paid hpaid hsome hquotes
  refine hquotes.imp_of_mem fun {a b} ha hb hquote hid => hquote ?_
  obtain ⟨p, hp⟩ := Option.isSome_iff_exists.mp (by simpa [Issued.quote] using hsome a ha)
  obtain ⟨q, hq⟩ := Option.isSome_iff_exists.mp (by simpa [Issued.quote] using hsome b hb)
  have hsame := h.same_quote (hpaid.subset ha) (hpaid.subset hb) hid hp hq
  simp [Issued.quote, hp, hq, hsame.1]

theorem exec_no_payment (hs : crates.Faithful) (h : store.Sound crates) {call : TransferCall}
    (hallowed : call.allowNew = false) (replies : List (Reply WalletAnswer)) :
    ∃ new, (store.exec crates call replies).issued = store.issued ++ new ∧
      ∀ issued ∈ new, issued.call.payment = none := by
  have hkept := exec_kept hs h call replies
  obtain ⟨new, hnew, htags⟩ := hkept.issued
  refine ⟨new, hnew, fun issued hissued => ?_⟩
  cases hpayment : issued.call.payment with
  | none => rfl
  | some payment =>
    have hmem : issued ∈ (store.exec crates call replies).issued := by simp [hnew, hissued]
    have hjustified := (hkept.sound.payments issued hmem payment.1 payment.2 hpayment).allowed
    rw [htags issued hissued, hallowed] at hjustified
    contradiction

/-- Transfers are safe, wherever a process is stopped and whatever the wallets and mints answer.
What a saga has bound to its transfer is bound for good, at every write and over all later calls.
A call for the same transfer with another request fails and issues nothing. Every payment is for
the one quote and the one invoice of its saga, of exactly the amount, and is confirmed within the
fee limit only, so a transfer is paid at most once if a quote is. A resumed transfer, and a
settlement after its deadline, issues no payment. -/
theorem transfers_safe (hs : crates.Faithful)
    (calls later : List (TransferCall × List (Reply WalletAnswer))) :
    (empty.after crates calls).Sound crates ∧
      (empty.after crates calls).Follows crates (empty.after crates (calls ++ later)) ∧
      (∀ (call : TransferCall) request bound, call.request crates = .ok request →
        (empty.after crates calls).saga crates request.transferId = some bound →
        bound.request ≠ request → ∀ replies, ∃ e p,
          call.run crates ⟨empty.after crates calls, replies⟩ = .error e p ∧
            p.durable = empty.after crates calls) ∧
      (∀ a ∈ (empty.after crates calls).issued, ∀ b ∈ (empty.after crates calls).issued,
        a.transferId = b.transferId → ∀ p q, a.call.payment = some p → b.call.payment = some q →
          p.1 = q.1 ∧ p.2.request = q.2.request) ∧
      (empty.after crates calls).PaysOnce ∧
      ∀ call : TransferCall, call.allowNew = false → ∀ replies, ∃ new,
        ((empty.after crates calls).exec crates call replies).issued =
            (empty.after crates calls).issued ++ new ∧
          ∀ issued ∈ new, issued.call.payment = none := by
  have hsound : (empty.after crates calls).Sound crates := after_sound hs empty_sound
  refine ⟨hsound, ?_, ?_, ?_, hsound.paysOnce, ?_⟩
  · rw [after_append]
    exact after_follows hs hsound
  · intro call request bound hrequest hbound hother replies
    have hrefuses : Acts (call.run crates) (empty.after crates calls)
        (fun _ store' => store' = empty.after crates calls) fun _ _ => False :=
      call.run_refuses hrequest (fun _ => rfl) hbound hother
    cases hrun : call.run crates ⟨empty.after crates calls, replies⟩ with
    | ok transfer p => exact (hrefuses.of_ok hrun).elim
    | error e p => exact ⟨e, p, rfl, hrefuses.of_error hrun⟩
  · intro a ha b hb hid p q hp hq
    exact hsound.same_quote ha hb hid hp hq
  · intro call hallowed replies
    exact exec_no_payment hs hsound hallowed replies

end TransferStore
end

def sampleInvoice : String :=
  "lnbc2500u1pvjluezsp5zyg3zyg3zyg3zyg3zyg3zyg3zyg3zyg3zyg3zyg3zyg3zyg3zygspp5qqqsyqcyq5rqwzq" ++
    "fqqqsyqcyq5rqwzqfqqqsyqcyq5rqwzqfqypqdq5xysxxatsyp3k7enxv4jsxqzpu9qrsgquk0rl77nj30yxdy8j9v" ++
    "dx85fkpmdla2087ne0xh8nhedh8w27kyke0lp53ut353s06fv3qfegext0eh0ymjpf39tuven09sam30g4vgpfna3r" ++
    "h"

def sampleInvoicedTransfer : CashuCrossMintTransferRequest :=
  { sampleTransfer "transfer-1" with amountSat := 250000 }

def sagaTextWith (result : String) (saga : CashuCrossMintTransferSaga) : String :=
  let text (o : Option String) := (o.map fun s => s!"\"{s}\"").getD "null"
  let number (o : Option UInt64) := (o.map toString).getD "null"
  s!"\x7b\"version\":{saga.version},\"request\":\x7b" ++
    s!"\"transfer_id\":\"{saga.request.transferId}\"," ++
    s!"\"source_mint_url\":\"{saga.request.sourceMintUrl}\"," ++
    s!"\"destination_mint_url\":\"{saga.request.destinationMintUrl}\"," ++
    s!"\"amount_sat\":{saga.request.amountSat},\"max_fee_sat\":{saga.request.maxFeeSat}\x7d," ++
    s!"\"destination_balance_before_sat\":{saga.destinationBalanceBeforeSat}," ++
    s!"\"destination_mint_quote_id\":{text saga.destinationMintQuoteId}," ++
    s!"\"destination_payment_request\":{text saga.destinationPaymentRequest}," ++
    s!"\"source_melt_quote_id\":{text saga.sourceMeltQuoteId}," ++
    s!"\"melt_fee_reserve_sat\":{number saga.meltFeeReserveSat}," ++
    s!"\"wallet_fee_sat\":{number saga.walletFeeSat},\"fee_paid_sat\":{number saga.feePaidSat}," ++
    s!"\"result\":{result}\x7d"

def sagaText (saga : CashuCrossMintTransferSaga) : String := sagaTextWith "null" saga

def sampleSagas : List CashuCrossMintTransferSaga :=
  let opened : CashuCrossMintTransferSaga :=
    ⟨crossMintTransferVersion, sampleInvoicedTransfer, 1, none, none, none, none, none, none, none⟩
  let invoiced := {
    opened with
    destinationMintQuoteId := some "mint-1", destinationPaymentRequest := some sampleInvoice }
  let quoted := { invoiced with sourceMeltQuoteId := some "melt-1", meltFeeReserveSat := some 1 }
  [opened, invoiced, quoted, { quoted with walletFeeSat := some 1 }]

def sampleCrates : TransferCrates where
  url := sampleUrlCrate
  mintUrlFromStr := .ok
  bolt11AmountMsat paymentRequest :=
    if paymentRequest = sampleInvoice then .ok (some 250000000) else .error ["invalid invoice"]
  encodeSaga saga := if saga ∈ sampleSagas then .ok (sagaText saga) else .error ["unknown saga"]
  decodeSaga text := okOr (sampleSagas.find? fun saga => sagaText saga = text) ["unknown text"]

theorem sampleCrates_reads :
    ∀ saga ∈ sampleSagas, sampleCrates.decodeSaga (sagaText saga) = .ok saga := by decide +kernel

theorem sampleCrates_faithful : sampleCrates.Faithful := by
  intro saga text h
  by_cases hsaga : saga ∈ sampleSagas
  · have htext : sagaText saga = text := by simpa [sampleCrates, hsaga] using h
    rw [← htext]
    exact sampleCrates_reads saga hsaga
  · simp [sampleCrates, hsaga] at h

/-- The wallets and mints quote the invoice, have no transaction of it, and see it unpaid. -/
def sampleAnswer : WalletAnswer where
  flag := true
  amount := 1
  mintQuote := ⟨"mint-1", "https://destination.example", .bolt11, .sat, some 250000, sampleInvoice,
    .unpaid, 0⟩
  storedMintQuote := none
  meltQuote := ⟨"melt-1", 250000, 1, sampleInvoice, .unpaid⟩
  storedMeltQuote := some ⟨"melt-1", 250000, 1, sampleInvoice, .unpaid⟩
  finalizedMelt := ⟨"melt-1", .paid, 1⟩
  finalizedMelts := []
  transactions := []

def sampleRun : List (TransferCall × List (Reply WalletAnswer)) :=
  [(.transfer sampleInvoicedTransfer, List.replicate 21 (.returns sampleAnswer) ++ [.stops 1])]

def sampleResumed : List (TransferCall × List (Reply WalletAnswer)) :=
  [(.resume sampleInvoicedTransfer, List.replicate 30 (.returns sampleAnswer))]

theorem TransferStore.transfers_safe_sample :
    (empty.after sampleCrates sampleRun).issued.map Issued.quote =
        [none, none, some "melt-1", some "melt-1"] ∧
      (empty.after sampleCrates (sampleRun ++ sampleResumed)).issued =
        (empty.after sampleCrates sampleRun).issued ∧
      (empty.after sampleCrates sampleRun).Sound sampleCrates ∧
      (empty.after sampleCrates sampleRun).PaysOnce :=
  have hsafe := transfers_safe sampleCrates_faithful sampleRun sampleResumed
  ⟨by decide +kernel, by decide +kernel, hsafe.1, hsafe.2.2.2.2.1⟩

end CashuService

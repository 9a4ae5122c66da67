import CashuService.Wallet.Transfer
set_option autoImplicit false

namespace CashuService

namespace CashuCrossMintTransferSaga

/-- What a saga has bound to its transfer is bound for good. -/
structure Grows (old new : CashuCrossMintTransferSaga) : Prop where
  version : new.version = old.version
  request : new.request = old.request
  mintQuote : ∀ id, old.destinationMintQuoteId = some id → new.destinationMintQuoteId = some id
  invoice : ∀ invoice, old.destinationPaymentRequest = some invoice →
    new.destinationPaymentRequest = some invoice
  meltQuote : ∀ id, old.sourceMeltQuoteId = some id → new.sourceMeltQuoteId = some id

def Paired (self : CashuCrossMintTransferSaga) : Prop :=
  self.destinationMintQuoteId = none → self.destinationPaymentRequest = none

theorem Grows.refl (saga : CashuCrossMintTransferSaga) : Grows saga saga :=
  ⟨rfl, rfl, fun _ h => h, fun _ h => h, fun _ h => h⟩

theorem Grows.trans {a b c : CashuCrossMintTransferSaga} (hab : Grows a b) (hbc : Grows b c) :
    Grows a c where
  version := hbc.version.trans hab.version
  request := hbc.request.trans hab.request
  mintQuote := fun id h => hbc.mintQuote id (hab.mintQuote id h)
  invoice := fun invoice h => hbc.invoice invoice (hab.invoice invoice h)
  meltQuote := fun id h => hbc.meltQuote id (hab.meltQuote id h)

end CashuCrossMintTransferSaga

def WalletCall.payment : WalletCall → Option (String × MeltQuote)
  | .prepareMelt quoteId record => some (quoteId, record)
  | .confirmMelt quoteId record _ => some (quoteId, record)
  | _ => none

def TransferCrates.Faithful (crates : TransferCrates) : Prop :=
  ∀ saga text, crates.encodeSaga saga = .ok text → crates.decodeSaga text = .ok saga

section

variable (crates : TransferCrates)

def readSaga (stored : Option String) : Option CashuCrossMintTransferSaga :=
  stored.bind fun text => (crates.decodeSaga text).toOption

def TransferStore.saga (store : TransferStore) (transferId : String) :
    Option CashuCrossMintTransferSaga :=
  readSaga crates (store.sagas transferId)

/-- What a saga says about a payment before it is issued: the quote is the one it names, the record
of the quote is for the invoice it names, and that invoice is for exactly the amount. A payment is
confirmed within the fee limit. -/
structure CashuCrossMintTransferSaga.Authorizes (saga : CashuCrossMintTransferSaga)
    (walletCall : WalletCall) (quoteId : String) (record : MeltQuote) : Prop where
  quote : saga.sourceMeltQuoteId = some quoteId
  invoice : saga.destinationPaymentRequest = some record.request
  amount : ∃ msat, crates.bolt11AmountMsat record.request = .ok (some msat) ∧
    msat.toNat = saga.request.amountSat.toNat * 1000
  limit : ∀ walletFeeSat, walletCall = .confirmMelt quoteId record walletFeeSat →
    saga.walletFeeSat = some walletFeeSat ∧
      record.feeReserve.toNat + walletFeeSat.toNat ≤ saga.request.maxFeeSat.toNat

/-- A payment was issued by a transfer that may start one, for a saga that authorizes it, and what
that saga bound is bound still. -/
structure Issued.Justified (store : TransferStore) (issued : Issued) (quoteId : String)
    (record : MeltQuote) : Prop where
  allowed : issued.allowNew = true
  authorized : ∃ saga, readSaga crates issued.stored = some saga ∧
    saga.Authorizes crates issued.call quoteId record ∧
    ∃ now, store.saga crates issued.transferId = some now ∧ saga.Grows now

/-- The invariant of the store: what is stored can be read, what was ever written was kept by
everything that was written after it, and every payment is justified. -/
structure TransferStore.Sound (store : TransferStore) : Prop where
  sagas : ∀ transferId text, store.sagas transferId = some text →
    ∃ saga, crates.decodeSaga text = .ok saga ∧ saga.request.transferId = transferId ∧ saga.Paired
  written : ∀ w ∈ store.written, ∃ old now, crates.decodeSaga w.2 = .ok old ∧
    store.saga crates w.1 = some now ∧ old.Grows now
  history : store.written.Pairwise fun earlier later => earlier.1 = later.1 →
    ∀ old new, crates.decodeSaga earlier.2 = .ok old → crates.decodeSaga later.2 = .ok new →
      old.Grows new
  payments : ∀ issued ∈ store.issued, ∀ quoteId record,
    issued.call.payment = some (quoteId, record) → issued.Justified crates store quoteId record

def TransferStore.Follows (old new : TransferStore) : Prop :=
  ∀ transferId saga, old.saga crates transferId = some saga →
    ∃ now, new.saga crates transferId = some now ∧ saga.Grows now

structure Kept (allowNew : Bool) (start store : TransferStore) : Prop where
  sound : store.Sound crates
  follows : start.Follows crates store
  issued : ∃ new, store.issued = start.issued ++ new ∧ ∀ issued ∈ new, issued.allowNew = allowNew

end

section

variable {crates : TransferCrates} {request : CashuCrossMintTransferRequest} {allowNew : Bool}
  {start store : TransferStore} {saga : CashuCrossMintTransferSaga} {text : String}

theorem readSaga_of_decode (h : crates.decodeSaga text = .ok saga) :
    readSaga crates (some text) = some saga := by
  simp [readSaga, h, Except.toOption]

theorem TransferStore.Follows.refl : start.Follows crates start :=
  fun _ saga h => ⟨saga, h, .refl saga⟩

theorem TransferStore.Follows.trans {mid : TransferStore} (h : start.Follows crates mid)
    (h' : mid.Follows crates store) : start.Follows crates store := by
  intro transferId saga hsaga
  obtain ⟨next, hnext, hgrows⟩ := h transferId saga hsaga
  obtain ⟨now, hnow, hgrows'⟩ := h' transferId next hnext
  exact ⟨now, hnow, hgrows.trans hgrows'⟩

theorem saga_save (h : crates.decodeSaga text = .ok saga) (transferId other : String) :
    (store.save transferId text).saga crates other =
      if other = transferId then some saga else store.saga crates other := by
  by_cases ho : other = transferId
  · simp [TransferStore.saga, TransferStore.save, ho, readSaga_of_decode h]
  · simp [TransferStore.saga, TransferStore.save, ho]

theorem follows_save (h : crates.decodeSaga text = .ok saga) {transferId : String}
    (hgrows : ∀ old, store.saga crates transferId = some old → old.Grows saga) :
    store.Follows crates (store.save transferId text) := by
  intro other old hold
  rw [saga_save h]
  by_cases ho : other = transferId
  · subst other
    exact ⟨saga, if_pos rfl, hgrows old hold⟩
  · exact ⟨old, by rw [if_neg ho, hold], .refl old⟩

theorem Issued.Justified.follows {issued : Issued} {quoteId : String} {record : MeltQuote}
    (h : issued.Justified crates start quoteId record) (hfollows : start.Follows crates store) :
    issued.Justified crates store quoteId record := by
  obtain ⟨saga, hstored, hauthorizes, now, hnow, hgrows⟩ := h.authorized
  obtain ⟨later, hlater, hgrows'⟩ := hfollows _ now hnow
  exact ⟨h.allowed, saga, hstored, hauthorizes, later, hlater, hgrows.trans hgrows'⟩

/-- A saga that has grown from the stored one has grown from all that were written before. -/
theorem TransferStore.Sound.grows_of_written (h : store.Sound crates) {transferId : String}
    (hgrows : ∀ old, store.saga crates transferId = some old → old.Grows saga)
    {w : String × String} (hw : w ∈ store.written) (hid : w.1 = transferId) :
    ∃ old, crates.decodeSaga w.2 = .ok old ∧ old.Grows saga := by
  obtain ⟨old, now, hdecode, hnow, hold⟩ := h.written w hw
  rw [hid] at hnow
  exact ⟨old, hdecode, hold.trans (hgrows now hnow)⟩

theorem TransferStore.Sound.written_save (h : store.Sound crates)
    (hdecode : crates.decodeSaga text = .ok saga) {transferId : String}
    (hgrows : ∀ old, store.saga crates transferId = some old → old.Grows saga) :
    ∀ w ∈ (store.save transferId text).written, ∃ old now, crates.decodeSaga w.2 = .ok old ∧
      (store.save transferId text).saga crates w.1 = some now ∧ old.Grows now := by
  intro w hw
  simp only [TransferStore.save, List.mem_append, List.mem_singleton] at hw
  cases hw with
  | inl hw =>
    obtain ⟨old, now, hold, hnow, hgrown⟩ := h.written w hw
    obtain ⟨next, hnext, hgrown'⟩ := follows_save hdecode hgrows w.1 now hnow
    exact ⟨old, next, hold, hnext, hgrown.trans hgrown'⟩
  | inr hw =>
    subst w
    exact ⟨saga, saga, hdecode, by simp [saga_save hdecode], .refl saga⟩

theorem TransferStore.Sound.history_save (h : store.Sound crates)
    (hdecode : crates.decodeSaga text = .ok saga) {transferId : String}
    (hgrows : ∀ old, store.saga crates transferId = some old → old.Grows saga) :
    (store.save transferId text).written.Pairwise fun earlier later => earlier.1 = later.1 →
      ∀ old new, crates.decodeSaga earlier.2 = .ok old → crates.decodeSaga later.2 = .ok new →
        old.Grows new := by
  refine List.pairwise_append.mpr ⟨h.history, List.pairwise_singleton _ _, ?_⟩
  intro earlier hearlier later hlater hid old new hold hnew
  rw [List.mem_singleton.mp hlater] at hid hnew
  obtain ⟨old', hold', hgrown⟩ := h.grows_of_written hgrows hearlier hid
  rw [hold, Except.ok.injEq] at hold'
  rw [hdecode, Except.ok.injEq] at hnew
  subst old' new
  exact hgrown

theorem Kept.save (h : Kept crates allowNew start store)
    (hdecode : crates.decodeSaga text = .ok saga) (hrequest : saga.request = request)
    (hpaired : saga.Paired)
    (hgrows : ∀ old, store.saga crates request.transferId = some old → old.Grows saga) :
    Kept crates allowNew start (store.save request.transferId text) := by
  have hfollows := follows_save hdecode hgrows
  refine ⟨⟨?_, h.sound.written_save hdecode hgrows, h.sound.history_save hdecode hgrows, ?_⟩,
    h.follows.trans hfollows, h.issued⟩
  · intro other text' htext
    by_cases ho : other = request.transferId
    · subst other
      simp only [TransferStore.save, Function.update_self, Option.some.injEq] at htext
      subst text'
      exact ⟨saga, hdecode, by rw [hrequest], hpaired⟩
    · simp only [TransferStore.save, Function.update_of_ne ho] at htext
      exact h.sound.sagas other text' htext
  · intro issued hi quoteId record hpayment
    exact (h.sound.payments issued hi quoteId record hpayment).follows hfollows

/-- Issuing a call keeps everything, if a payment is authorized by the stored saga. -/
theorem Kept.issue (h : Kept crates allowNew start store) {transferId : String}
    {walletCall : WalletCall}
    (hpayment : ∀ quoteId record, walletCall.payment = some (quoteId, record) →
      allowNew = true ∧ ∃ saga, store.saga crates transferId = some saga ∧
        saga.Authorizes crates walletCall quoteId record) :
    Kept crates allowNew start (store.issue transferId allowNew walletCall) := by
  have hsame : store.Follows crates (store.issue transferId allowNew walletCall) :=
    TransferStore.Follows.refl
  refine ⟨⟨h.sound.sagas, h.sound.written, h.sound.history, ?_⟩, h.follows, ?_⟩
  · intro issued hi quoteId record hcall
    simp only [TransferStore.issue, List.mem_append, List.mem_singleton] at hi
    cases hi with
    | inl hi => exact (h.sound.payments issued hi quoteId record hcall).follows hsame
    | inr hi =>
      subst issued
      obtain ⟨hallowed, saga, hsaga, hauthorizes⟩ := hpayment quoteId record hcall
      exact ⟨hallowed, saga, hsaga, hauthorizes, saga, hsaga, .refl saga⟩
  · obtain ⟨new, hnew, htags⟩ := h.issued
    refine ⟨new ++ [⟨transferId, allowNew, store.sagas transferId, walletCall⟩],
      ?_, ?_⟩
    · simp [TransferStore.issue, hnew]
    · intro issued hi
      simp only [List.mem_append, List.mem_singleton] at hi
      cases hi with
      | inl hi => exact htags issued hi
      | inr hi => simp [hi]

end

section

variable {α β : Type} {Q : WalletAnswer → Prop} {store : TransferStore}
  {err : TransferError → TransferStore → Prop} {ok : β → TransferStore → Prop} {message : String}

theorem observe_on {pick : WalletAnswer → β} (herr : ∀ e, err e store)
    (h : ∀ answer, Q answer → ok (pick answer) store) :
    ActsOn Q (observe pick) store err ok :=
  ActsOn.seq (q := fun answer store' => store' = store ∧ Q answer)
    (.call (herr _) (fun _ hq => ⟨rfl, hq⟩) (fun _ _ => herr _) fun _ => herr _)
    fun answer _ ⟨hsame, hq⟩ => .pure (hsame ▸ h answer hq)

theorem query_on {pick : WalletAnswer → β} (herr : ∀ e, err e store)
    (h : ∀ answer, Q answer → ok (pick answer) store) :
    ActsOn Q (query message pick) store err ok :=
  ActsOn.seq (q := fun answer store' => store' = store ∧ Q answer)
    (.call (herr _) (fun _ hq => ⟨rfl, hq⟩) (fun _ _ => herr _) fun _ => herr _)
    fun answer _ ⟨hsame, hq⟩ => .pure (hsame ▸ h answer hq)

theorem ask_on {transferId : String} {allowNew : Bool} {walletCall : WalletCall}
    {pick : WalletAnswer → β} (herr : ∀ e, err e store)
    (hissued : ∀ e, err e (store.issue transferId allowNew walletCall))
    (h : ∀ b, ok b (store.issue transferId allowNew walletCall)) :
    ActsOn Q (ask transferId allowNew message walletCall pick) store err ok :=
  ActsOn.seq (q := fun _ store' => store' = store.issue transferId allowNew walletCall)
    (.call (herr _) (fun _ _ => rfl) (fun _ _ => hissued _) fun _ => hissued _)
    fun _ _ hsame => .pure (hsame ▸ h _)

theorem fallible_on {result : Except Anyhow β} (herr : ∀ e, err e store)
    (h : ∀ b, result = .ok b → ok b store) : ActsOn Q (fallible result) store err ok :=
  .attempt (fun e _ => herr e) fun b hb => h b (Except.mapError_eq_ok.mp hb)

variable {f : α → TransferM β}

theorem observe_bind_on {pick : WalletAnswer → α} (herr : ∀ e, err e store)
    (h : ∀ answer, Q answer → ActsOn Q (f (pick answer)) store err ok) :
    ActsOn Q (observe pick >>= f) store err ok :=
  ActsOn.seq (q := fun a store' => store' = store ∧ ∃ answer, Q answer ∧ a = pick answer)
    (observe_on herr fun answer hq => ⟨rfl, answer, hq, rfl⟩)
    fun _ _ ⟨hsame, answer, hq, ha⟩ => hsame ▸ ha ▸ h answer hq

theorem query_bind_on {pick : WalletAnswer → α} (herr : ∀ e, err e store)
    (h : ∀ answer, Q answer → ActsOn Q (f (pick answer)) store err ok) :
    ActsOn Q (query message pick >>= f) store err ok :=
  ActsOn.seq (q := fun a store' => store' = store ∧ ∃ answer, Q answer ∧ a = pick answer)
    (query_on herr fun answer hq => ⟨rfl, answer, hq, rfl⟩)
    fun _ _ ⟨hsame, answer, hq, ha⟩ => hsame ▸ ha ▸ h answer hq

theorem ask_bind_on {transferId : String} {allowNew : Bool} {walletCall : WalletCall}
    {pick : WalletAnswer → α} (herr : ∀ e, err e store)
    (hissued : ∀ e, err e (store.issue transferId allowNew walletCall))
    (h : ∀ a, ActsOn Q (f a) (store.issue transferId allowNew walletCall) err ok) :
    ActsOn Q (ask transferId allowNew message walletCall pick >>= f) store err ok :=
  ActsOn.seq (q := fun _ store' => store' = store.issue transferId allowNew walletCall)
    (ask_on herr hissued fun _ => rfl) fun a _ hsame => hsame ▸ h a

theorem fallible_bind_on {result : Except Anyhow α} (herr : ∀ e, err e store)
    (h : ∀ a, result = .ok a → ActsOn Q (f a) store err ok) :
    ActsOn Q (fallible result >>= f) store err ok :=
  ActsOn.seq (q := fun a store' => store' = store ∧ result = .ok a)
    (fallible_on herr fun _ ha => ⟨rfl, ha⟩) fun a _ ⟨hsame, ha⟩ => hsame ▸ h a ha

theorem bailIf_bind_on {c : Prop} [Decidable c] {f : Unit → TransferM β} (herr : ∀ e, err e store)
    (h : ¬c → ActsOn Q (f ()) store err ok) : ActsOn Q (bailIf c message >>= f) store err ok :=
  fallible_bind_on herr fun _ hc => h (rejectIf_eq_ok.mp hc)

theorem orBail_bind_on {o : Option α} (herr : ∀ e, err e store)
    (h : ∀ a, o = some a → ActsOn Q (f a) store err ok) :
    ActsOn Q (orBail o message >>= f) store err ok :=
  fallible_bind_on herr fun a ha => h a (okOr_eq_ok.mp ha)

theorem ask_acts {transferId : String} {allowNew : Bool} {walletCall : WalletCall}
    {pick : WalletAnswer → β} (herr : ∀ e, err e store)
    (hissued : ∀ e, err e (store.issue transferId allowNew walletCall))
    (h : ∀ b, ok b (store.issue transferId allowNew walletCall)) :
    Acts (ask transferId allowNew message walletCall pick) store err ok :=
  acts_iff_on.mpr (ask_on herr hissued h)

theorem fallible_acts {result : Except Anyhow β} (herr : ∀ e, err e store)
    (h : ∀ b, result = .ok b → ok b store) : Acts (fallible result) store err ok :=
  acts_iff_on.mpr (fallible_on herr h)

theorem query_bind {pick : WalletAnswer → α} (herr : ∀ e, err e store)
    (h : ∀ a, Acts (f a) store err ok) : Acts (query message pick >>= f) store err ok :=
  acts_iff_on.mpr (query_bind_on herr fun answer _ => acts_iff_on.mp (h (pick answer)))

theorem ask_bind {transferId : String} {allowNew : Bool} {walletCall : WalletCall}
    {pick : WalletAnswer → α} (herr : ∀ e, err e store)
    (hissued : ∀ e, err e (store.issue transferId allowNew walletCall))
    (h : ∀ a, Acts (f a) (store.issue transferId allowNew walletCall) err ok) :
    Acts (ask transferId allowNew message walletCall pick >>= f) store err ok :=
  acts_iff_on.mpr (ask_bind_on herr hissued fun a => acts_iff_on.mp (h a))

theorem fallible_bind {result : Except Anyhow α} (herr : ∀ e, err e store)
    (h : ∀ a, result = .ok a → Acts (f a) store err ok) :
    Acts (fallible result >>= f) store err ok :=
  acts_iff_on.mpr (fallible_bind_on herr fun a ha => acts_iff_on.mp (h a ha))

theorem bailIf_bind {c : Prop} [Decidable c] {f : Unit → TransferM β} (herr : ∀ e, err e store)
    (h : ¬c → Acts (f ()) store err ok) : Acts (bailIf c message >>= f) store err ok :=
  acts_iff_on.mpr (bailIf_bind_on herr fun hc => acts_iff_on.mp (h hc))

theorem orBail_bind {o : Option α} (herr : ∀ e, err e store)
    (h : ∀ a, o = some a → Acts (f a) store err ok) : Acts (orBail o message >>= f) store err ok :=
  acts_iff_on.mpr (orBail_bind_on herr fun a ha => acts_iff_on.mp (h a ha))

end

/-- A transfer works on a saga that is bound to its request, and the store is not behind in
anything that is bound for good. -/
structure Holds (crates : TransferCrates) (request : CashuCrossMintTransferRequest)
    (allowNew : Bool) (start : TransferStore) (saga : CashuCrossMintTransferSaga)
    (store : TransferStore) : Prop where
  kept : Kept crates allowNew start store
  bound : saga.request = request
  paired : saga.Paired
  stored : ∃ old, store.saga crates request.transferId = some old ∧ old.Grows saga ∧ saga.Grows old

section

variable {crates : TransferCrates} {request : CashuCrossMintTransferRequest} {allowNew : Bool}
  {start store : TransferStore} {saga : CashuCrossMintTransferSaga} {text : String}

theorem Holds.issue (h : Holds crates request allowNew start saga store) {walletCall : WalletCall}
    (hkept : Kept crates allowNew start
      (store.issue request.transferId allowNew walletCall)) :
    Holds crates request allowNew start saga
      (store.issue request.transferId allowNew walletCall) :=
  ⟨hkept, h.bound, h.paired, h.stored⟩

theorem Kept.issue_other (h : Kept crates allowNew start store) (transferId : String)
    {walletCall : WalletCall} (hother : walletCall.payment = none) :
    Kept crates allowNew start (store.issue transferId allowNew walletCall) :=
  h.issue fun quoteId record hpayment => by simp [hother] at hpayment

theorem saveCrossMintTransferSaga_acts (hs : crates.Faithful)
    (hkept : Kept crates allowNew start store) (hrequest : saga.request = request)
    (hpaired : saga.Paired)
    (hgrows : ∀ old, store.saga crates request.transferId = some old → old.Grows saga) :
    Acts (saveCrossMintTransferSaga crates saga) store
      (fun _ => Kept crates allowNew start) fun _ store' =>
        Holds crates request allowNew start saga store' ∧
          store'.saga crates request.transferId = some saga := by
  subst hrequest
  apply fallible_bind fun _ => hkept
  intro text htext
  have hdecode := hs saga text (Except.mapError_eq_ok.mp htext)
  have hsaved := hkept.save hdecode rfl hpaired hgrows
  have hstored : (store.save saga.request.transferId text).saga crates saga.request.transferId =
      some saga := by rw [saga_save hdecode, if_pos rfl]
  refine Acts.seq (q := fun _ store' => Holds crates saga.request allowNew start saga store' ∧
    store'.saga crates saga.request.transferId = some saga) (Acts.call hkept ?_ ?_ ?_)
    fun _ _ h => .pure h
  · exact fun _ => ⟨⟨hsaved, rfl, hpaired, saga, hstored, .refl saga, .refl saga⟩, hstored⟩
  · intro n _
    split
    · exact hkept
    · exact hsaved
  · intro n
    split
    · exact hkept
    · exact hsaved

theorem loadCrossMintTransferSaga_on {Q : WalletAnswer → Prop}
    {err : TransferError → TransferStore → Prop} (herr : ∀ e, err e store) :
    ActsOn Q (loadCrossMintTransferSaga crates request.transferId) store err fun found store' =>
      store' = store ∧ found = store.saga crates request.transferId := by
  apply query_bind_on herr
  intro _ _
  apply ActsOn.peek_bind
  cases htext : store.sagas request.transferId with
  | none => exact .pure ⟨rfl, by simp [TransferStore.saga, readSaga, htext]⟩
  | some text =>
    apply fallible_bind_on herr
    intro saga hdecode
    have hread := readSaga_of_decode (Except.mapError_eq_ok.mp hdecode)
    exact .pure ⟨rfl, by rw [TransferStore.saga, htext, hread]⟩

theorem loadCrossMintTransferSaga_acts {err : TransferError → TransferStore → Prop}
    (herr : ∀ e, err e store) :
    Acts (loadCrossMintTransferSaga crates request.transferId) store err fun found store' =>
      store' = store ∧ found = store.saga crates request.transferId :=
  acts_iff_on.mpr (loadCrossMintTransferSaga_on herr)

theorem TransferStore.Sound.of_saga (h : store.Sound crates) {transferId : String}
    (hsaga : store.saga crates transferId = some saga) :
    saga.request.transferId = transferId ∧ saga.Paired := by
  cases htext : store.sagas transferId with
  | none => simp [TransferStore.saga, readSaga, htext] at hsaga
  | some text =>
    obtain ⟨saga', hdecode, hid, hpaired⟩ := h.sagas transferId text htext
    rw [TransferStore.saga, htext, readSaga_of_decode hdecode, Option.some.injEq] at hsaga
    subst saga'
    exact ⟨hid, hpaired⟩

theorem Holds.grows (h : Holds crates request allowNew start saga store)
    {next : CashuCrossMintTransferSaga} (hnext : saga.Grows next) :
    ∀ old, store.saga crates request.transferId = some old → old.Grows next := by
  intro old hold
  obtain ⟨stored, hstored, hbehind, -⟩ := h.stored
  rw [hstored, Option.some.injEq] at hold
  subst stored
  exact hbehind.trans hnext

theorem Holds.save_acts (hs : crates.Faithful)
    (h : Holds crates request allowNew start saga store) {next : CashuCrossMintTransferSaga}
    (hnext : saga.Grows next) (hpaired : next.Paired) :
    Acts (saveCrossMintTransferSaga crates next) store (fun _ => Kept crates allowNew start)
      fun _ store' => Holds crates request allowNew start next store' ∧
        store'.saga crates request.transferId = some next :=
  saveCrossMintTransferSaga_acts hs h.kept (hnext.request.trans h.bound) hpaired (h.grows hnext)

theorem bindSaga_acts (hs : crates.Faithful) (hkept : Kept crates allowNew start store) :
    Acts (bindSaga crates request allowNew) store (fun _ => Kept crates allowNew start)
      (Holds crates request allowNew start) := by
  refine (loadCrossMintTransferSaga_acts fun _ => hkept).seq fun found store' hload => ?_
  obtain ⟨rfl, hfound⟩ := hload
  cases found with
  | some saga =>
    apply bailIf_bind fun _ => hkept
    intro hsame
    simp only [not_or, ne_eq, not_not] at hsame
    have hpaired := (hkept.sound.of_saga hfound.symm).2
    exact .pure ⟨hkept, hsame.2, hpaired, saga, hfound.symm, .refl saga, .refl saga⟩
  | none =>
    apply bailIf_bind fun _ => hkept
    intro _
    apply query_bind fun _ => hkept
    intro balance
    refine (saveCrossMintTransferSaga_acts hs hkept rfl ?_ ?_).seq fun _ _ h => .pure h.1
    · exact fun _ => rfl
    · intro old hold
      rw [hold] at hfound
      contradiction

theorem quoteDestination_acts (hs : crates.Faithful)
    (h : Holds crates request allowNew start saga store) :
    Acts (quoteDestination crates request allowNew saga) store
      (fun _ => Kept crates allowNew start) (Holds crates request allowNew start) := by
  refine .ite (fun _ => .pure h) fun hnone => ?_
  simp only [Option.not_isSome_iff_eq_none] at hnone
  have hinvoice := h.paired hnone
  have hissued := h.kept.issue_other request.transferId
    (rfl : (WalletCall.mintQuote request.amountSat).payment = none)
  apply ask_bind (fun _ => h.kept) fun _ => hissued
  intro quote
  apply bailIf_bind fun _ => hissued
  intro _
  apply fallible_bind fun _ => hissued
  intro _ _
  refine ((h.issue hissued).save_acts hs ?_ ?_).seq fun _ _ h' => .pure h'.1
  · exact ⟨rfl, rfl, by simp [hnone], by simp [hinvoice], fun _ h => h⟩
  · intro hsome
    simp at hsome

theorem quoteSource_acts (hs : crates.Faithful)
    (h : Holds crates request allowNew start saga store) {paymentRequest : String} :
    Acts (quoteSource crates request allowNew saga paymentRequest) store
      (fun _ => Kept crates allowNew start) fun next store' =>
        Holds crates request allowNew start next store' ∧ saga.Grows next := by
  refine .ite (fun _ => .pure ⟨h, .refl saga⟩) fun hnone => ?_
  simp only [Option.not_isSome_iff_eq_none] at hnone
  have hissued := h.kept.issue_other request.transferId
    (rfl : (WalletCall.meltQuote paymentRequest).payment = none)
  apply ask_bind (fun _ => h.kept) fun _ => hissued
  intro quote
  apply bailIf_bind fun _ => hissued
  intro _
  apply bailIf_bind fun _ => hissued
  intro _
  have hgrows : saga.Grows { saga with
      sourceMeltQuoteId := some quote.id, meltFeeReserveSat := some quote.feeReserve } :=
    ⟨rfl, rfl, fun _ h => h, fun _ h => h, by simp [hnone]⟩
  exact ((h.issue hissued).save_acts hs hgrows h.paired).seq fun _ _ h' => .pure ⟨h'.1, hgrows⟩

theorem loadSourceQuote_acts (h : Kept crates allowNew start store) {paymentRequest : String} :
    Acts (loadSourceQuote request saga paymentRequest) store
      (fun _ => Kept crates allowNew start) fun sourceQuote store' =>
        store' = store ∧ sourceQuote.request = paymentRequest := by
  apply query_bind fun _ => h
  intro stored
  apply orBail_bind fun _ => h
  intro sourceQuote _
  apply bailIf_bind fun _ => h
  intro hsame
  apply orBail_bind fun _ => h
  intro _ _
  apply bailIf_bind fun _ => h
  intro _
  simp only [not_or, ne_eq, not_not] at hsame
  exact .pure ⟨rfl, hsame.1⟩

theorem grows_of_fees (saga : CashuCrossMintTransferSaga) (walletFeeSat feePaidSat : Option UInt64)
    (result : Option CashuCrossMintTransfer) :
    saga.Grows { saga with
      walletFeeSat := walletFeeSat, feePaidSat := feePaidSat, result := result } ∧
      CashuCrossMintTransferSaga.Grows { saga with
        walletFeeSat := walletFeeSat, feePaidSat := feePaidSat, result := result } saga :=
  ⟨⟨rfl, rfl, fun _ h => h, fun _ h => h, fun _ h => h⟩,
    ⟨rfl, rfl, fun _ h => h, fun _ h => h, fun _ h => h⟩⟩

structure Quoted (crates : TransferCrates) (saga : CashuCrossMintTransferSaga) (quoteId : String)
    (record : MeltQuote) : Prop where
  quote : saga.sourceMeltQuoteId = some quoteId
  invoice : saga.destinationPaymentRequest = some record.request
  amount : validateExactBolt11Amount crates record.request saga.request.amountSat = .ok ()

theorem validateExactBolt11Amount_ok {paymentRequest : String} {amountSat : UInt64}
    (h : validateExactBolt11Amount crates paymentRequest amountSat = .ok ()) :
    ∃ msat, crates.bolt11AmountMsat paymentRequest = .ok (some msat) ∧
      msat.toNat = amountSat.toNat * 1000 := by
  simp only [validateExactBolt11Amount, Except.bind_eq_ok] at h
  simp only [rejectIf_eq_ok, okOr_eq_ok, ne_eq, not_not] at h
  obtain ⟨amountMsat, hparsed, expected, hexpected, invoiceMsat, hmsat, hsame⟩ := h
  have hthousand : (1000 : UInt64).toNat = 1000 := rfl
  rw [UInt64.checkedMul_eq_some, hthousand] at hexpected
  refine ⟨expected, ?_, hexpected⟩
  rw [Except.mapError_eq_ok.mp hparsed, hmsat, hsame]

theorem Quoted.authorizes {quoteId : String} {record : MeltQuote} {walletCall : WalletCall}
    {stored : CashuCrossMintTransferSaga} (h : Quoted crates saga quoteId record)
    (hsame : saga.Grows stored)
    (hlimit : ∀ walletFeeSat, walletCall = .confirmMelt quoteId record walletFeeSat →
      stored.walletFeeSat = some walletFeeSat ∧
        record.feeReserve.toNat + walletFeeSat.toNat ≤ stored.request.maxFeeSat.toNat) :
    stored.Authorizes crates walletCall quoteId record where
  quote := hsame.meltQuote _ h.quote
  invoice := hsame.invoice _ h.invoice
  amount := by
    rw [hsame.request]
    exact validateExactBolt11Amount_ok h.amount
  limit := hlimit

theorem startPayment_acts (hs : crates.Faithful)
    (h : Holds crates request allowNew start saga store) {quoteId : String} {record : MeltQuote}
    (hquoted : Quoted crates saga quoteId record) :
    Acts (startPayment crates request allowNew saga quoteId record) store
      (fun _ => Kept crates allowNew start) (Holds crates request allowNew start) := by
  apply bailIf_bind fun _ => h.kept
  intro hallowed
  have hallowed : allowNew = true := by simpa using hallowed
  have hprepared : Kept crates allowNew start
      (store.issue request.transferId allowNew (.prepareMelt quoteId record)) := by
    refine h.kept.issue fun id record' hpayment => ⟨hallowed, ?_⟩
    simp only [WalletCall.payment, Option.some.injEq, Prod.mk.injEq] at hpayment
    obtain ⟨rfl, rfl⟩ := hpayment
    obtain ⟨stored, hstored, -, hahead⟩ := h.stored
    exact ⟨stored, hstored, hquoted.authorizes hahead fun _ hcall => by contradiction⟩
  apply ask_bind (fun _ => h.kept) fun _ => hprepared
  intro walletFeeSat
  apply orBail_bind fun _ => hprepared
  intro preflightFeeSat hpreflight
  have hpreflight := UInt64.checkedAdd_eq_some.mp hpreflight
  apply Acts.ite
  · intro _
    have hcancelled := hprepared.issue_other request.transferId
      (rfl : (WalletCall.cancelMelt quoteId).payment = none)
    apply ask_bind (fun _ => hprepared) fun _ => hcancelled
    intro _
    exact .throw hcancelled
  · intro hlimit
    have hlimit := UInt64.le_iff_toNat_le.mp (UInt64.not_lt.mp hlimit)
    obtain ⟨hgrows, hback⟩ := grows_of_fees saga (some walletFeeSat) saga.feePaidSat saga.result
    refine ((h.issue hprepared).save_acts hs hgrows h.paired).seq fun _ saved hsaved => ?_
    obtain ⟨hholds, hstored⟩ := hsaved
    have hconfirmed : Kept crates allowNew start
        (saved.issue request.transferId allowNew (.confirmMelt quoteId record walletFeeSat)) := by
      refine hholds.kept.issue fun id record' hpayment => ⟨hallowed, ?_⟩
      simp only [WalletCall.payment, Option.some.injEq, Prod.mk.injEq] at hpayment
      obtain ⟨rfl, rfl⟩ := hpayment
      refine ⟨_, hstored, hquoted.authorizes hgrows fun fee hcall => ?_⟩
      simp only [WalletCall.confirmMelt.injEq, true_and] at hcall
      subst fee
      refine ⟨rfl, ?_⟩
      rw [hholds.bound]
      omega
    apply ask_bind (fun _ => hholds.kept) fun _ => hconfirmed
    intro finalized
    apply bailIf_bind fun _ => hconfirmed
    intro _
    have hfinal := grows_of_fees { saga with walletFeeSat := some walletFeeSat }
      (some walletFeeSat) (some finalized.feePaid) saga.result
    exact ((hholds.issue hconfirmed).save_acts hs hfinal.1 h.paired).seq fun _ _ h' => .pure h'.1

theorem payQuote_acts (hs : crates.Faithful)
    (h : Holds crates request allowNew start saga store) {quoteId : String} {record : MeltQuote}
    (hquoted : Quoted crates saga quoteId record) :
    Acts (payQuote crates request allowNew saga quoteId record) store
      (fun _ => Kept crates allowNew start) (Holds crates request allowNew start) := by
  unfold payQuote
  cases record.state with
  | unpaid => exact startPayment_acts hs h hquoted
  | paid => exact .pure h
  | pending => exact .throw h.kept
  | unknown => exact .throw h.kept
  | failed => exact .throw h.kept

theorem recoverPayment_acts (h : Kept crates allowNew start store) {quoteId : String}
    {recoveredMelts : List FinalizedMelt} :
    Acts (recoverPayment saga quoteId recoveredMelts) store (fun _ => Kept crates allowNew start)
      fun next store' => store' = store ∧
        ∃ feePaidSat, next = { saga with feePaidSat := feePaidSat } := by
  unfold recoverPayment
  split
  · exact .pure ⟨rfl, saga.feePaidSat, rfl⟩
  · rename_i finalized _
    apply bailIf_bind fun _ => h
    intro _
    exact .pure ⟨rfl, some finalized.feePaid, rfl⟩

theorem paySource_acts (hs : crates.Faithful)
    (h : Holds crates request allowNew start saga store) {quoteId : String} {record : MeltQuote}
    {recoveredMelts : List FinalizedMelt} (hquoted : Quoted crates saga quoteId record) :
    Acts (paySource crates request allowNew saga quoteId record recoveredMelts) store
      (fun _ => Kept crates allowNew start) fun paid store' =>
        Holds crates request allowNew start paid.1 store' := by
  apply query_bind fun _ => h.kept
  intro transactions
  cases transactions.find? fun transaction => transaction.quoteId == some quoteId with
  | some transaction => exact .pure h
  | none =>
    refine (recoverPayment_acts h.kept).seq fun next store' hrecovered => ?_
    obtain ⟨rfl, feePaidSat, rfl⟩ := hrecovered
    obtain ⟨hgrows, hback⟩ := grows_of_fees saga saga.walletFeeSat feePaidSat saga.result
    obtain ⟨stored, hstored, hbehind, hahead⟩ := h.stored
    have hnext : Holds crates request allowNew start { saga with feePaidSat := feePaidSat }
        store' := ⟨h.kept, h.bound, h.paired, stored, hstored, hbehind.trans hgrows,
          hback.trans hahead⟩
    have hquoted' : Quoted crates { saga with feePaidSat := feePaidSat } quoteId record :=
      ⟨hquoted.quote, hquoted.invoice, hquoted.amount⟩
    refine (payQuote_acts hs hnext hquoted').seq fun final store'' hfinal => ?_
    apply query_bind fun _ => hfinal.kept
    intro _
    exact .pure hfinal

theorem issueQuote_acts (h : Holds crates request allowNew start saga store)
    {destinationQuoteId : String} {state : MintQuoteState} :
    Acts (issueQuote request allowNew destinationQuoteId state) store
      (fun _ => Kept crates allowNew start) fun _ store' =>
        Holds crates request allowNew start saga store' := by
  apply Acts.ite
  · intro _
    have hissued := h.kept.issue_other request.transferId
      (rfl : (WalletCall.mint destinationQuoteId).payment = none)
    exact ask_acts (fun _ => h.kept) (fun _ => hissued) fun _ => h.issue hissued
  · intro _
    exact fallible_acts (fun _ => h.kept) fun _ _ => h

theorem issueDestination_acts (h : Holds crates request allowNew start saga store)
    {destinationMint destinationQuoteId paymentRequest : String} :
    Acts (issueDestination request allowNew destinationMint destinationQuoteId paymentRequest)
      store (fun _ => Kept crates allowNew start) fun _ store' =>
        Holds crates request allowNew start saga store' := by
  apply query_bind fun _ => h.kept
  intro destinationQuote
  apply bailIf_bind fun _ => h.kept
  intro _
  refine (issueQuote_acts h).seq fun _ store' h' => ?_
  apply query_bind fun _ => h'.kept
  intro stored
  apply orBail_bind fun _ => h'.kept
  intro issuedQuote _
  exact fallible_acts (fun _ => h'.kept) fun _ _ => h'

theorem completeTransfer_acts (hs : crates.Faithful)
    (h : Holds crates request allowNew start saga store)
    {destinationMint destinationQuoteId paymentRequest quoteId : String}
    {transaction : Option WalletTransaction} :
    Acts (completeTransfer crates request allowNew destinationMint saga destinationQuoteId
      paymentRequest quoteId transaction) store (fun _ => Kept crates allowNew start)
      fun _ => Kept crates allowNew start := by
  apply orBail_bind fun _ => h.kept
  intro paidTransaction _
  have hpaid := grows_of_fees saga saga.walletFeeSat (some paidTransaction.fee) saga.result
  refine (h.save_acts hs hpaid.1 h.paired).seq fun _ saved hsaved => ?_
  refine (issueDestination_acts hsaved.1).seq fun _ issued hissued => ?_
  apply query_bind fun _ => hissued.kept
  intro balance
  apply bailIf_bind fun _ => hissued.kept
  intro _
  have hresult := grows_of_fees { saga with feePaidSat := some paidTransaction.fee }
    saga.walletFeeSat (some paidTransaction.fee)
  exact (hissued.save_acts hs (hresult _).1 h.paired).seq fun _ _ hfinal => .pure hfinal.1.kept

theorem advanceSaga_acts (hs : crates.Faithful)
    (h : Holds crates request allowNew start saga store) {destinationMint : String}
    {recoveredMelts : List FinalizedMelt} :
    Acts (advanceSaga crates request allowNew destinationMint saga recoveredMelts) store
      (fun _ => Kept crates allowNew start) fun _ => Kept crates allowNew start := by
  refine (quoteDestination_acts hs h).seq fun saga₁ store₁ h₁ => ?_
  apply orBail_bind fun _ => h₁.kept
  intro destinationQuoteId _
  apply orBail_bind fun _ => h₁.kept
  intro paymentRequest hinvoice
  apply fallible_bind fun _ => h₁.kept
  intro _ hamount
  refine (quoteSource_acts hs h₁).seq fun saga₂ store₂ h₂ => ?_
  obtain ⟨h₂, hgrows⟩ := h₂
  apply orBail_bind fun _ => h₂.kept
  intro sourceQuoteId hquote
  refine (loadSourceQuote_acts h₂.kept).seq fun record store₃ hrecord => ?_
  obtain ⟨rfl, rfl⟩ := hrecord
  have hquoted : Quoted crates saga₂ sourceQuoteId record :=
    ⟨hquote, hgrows.invoice _ hinvoice, by rw [h₂.bound]; exact hamount⟩
  refine (paySource_acts hs h₂ hquoted).seq fun paid store₄ h₄ => ?_
  exact completeTransfer_acts hs h₄

theorem transferBetweenWalletsWithStart_acts (hs : crates.Faithful)
    (h : Kept crates allowNew start store) {destinationMint : String} :
    Acts (transferBetweenWalletsWithStart crates request allowNew destinationMint) store
      (fun _ => Kept crates allowNew start) fun _ => Kept crates allowNew start := by
  apply query_bind fun _ => h
  intro recoveredMelts
  apply query_bind fun _ => h
  intro _
  apply query_bind fun _ => h
  intro _
  refine (bindSaga_acts hs h).seq fun saga store' hbound => ?_
  cases saga.result with
  | some result => exact .pure hbound.kept
  | none => exact advanceSaga_acts hs hbound

end
end CashuService

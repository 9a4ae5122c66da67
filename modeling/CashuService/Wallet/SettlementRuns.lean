import CashuService.Credit.Settlement
import CashuService.Wallet.TransferRuns
set_option autoImplicit false

namespace CashuService

open CreditAccount

def TransferStore.HasResult (crates : TransferCrates) (transferId : String)
    (transfer : CashuCrossMintTransfer) (store : TransferStore) : Prop :=
  ∃ saga, store.saga crates transferId = some saga ∧ saga.result = some transfer

/-- One of these transactions is the payment of the transfer's melt quote, with the fee that the
transfer tells. -/
def TransferPaid (listed : WalletTransaction → Prop) (transfer : CashuCrossMintTransfer) : Prop :=
  ∃ transaction, listed transaction ∧ transaction.quoteId = some transfer.sourceMeltQuoteId ∧
    transaction.fee = transfer.feePaidSat

/-- The wallet kit lists only transactions like this. -/
def Lists (listed : WalletTransaction → Prop) (answer : WalletAnswer) : Prop :=
  ∀ transaction ∈ answer.transactions, listed transaction

/-- A call changes no saga but its own, and does nothing at all once that has a result. A result
that it adds tells of a payment that was listed. -/
def ResultKept (crates : TransferCrates) (listed : WalletTransaction → Prop) (transferId : String)
    (start store : TransferStore) : Prop :=
  (∀ other, other ≠ transferId → store.sagas other = start.sagas other) ∧
    (store = start ∨ (∀ saga, start.saga crates transferId = some saga → saga.result = none) ∧
      ∀ transfer, store.HasResult crates transferId transfer → TransferPaid listed transfer)

structure Unfinished (crates : TransferCrates) (request : CashuCrossMintTransferRequest)
    (start : TransferStore) (saga : CashuCrossMintTransferSaga) (store : TransferStore) :
    Prop where
  bound : saga.request = request
  apart : ∀ other, other ≠ request.transferId → store.sagas other = start.sagas other
  fresh : ∀ saga, start.saga crates request.transferId = some saga → saga.result = none
  unsettled : saga.result = none
  without : ∀ transfer, ¬store.HasResult crates request.transferId transfer

section

variable {crates : TransferCrates} {request : CashuCrossMintTransferRequest} {allowNew : Bool}
  {listed : WalletTransaction → Prop} {start store : TransferStore}
  {saga next : CashuCrossMintTransferSaga}

theorem Unfinished.resultKept (h : Unfinished crates request start saga store) :
    ResultKept crates listed request.transferId start store :=
  ⟨h.apart, .inr ⟨h.fresh, fun transfer hresult => absurd hresult (h.without transfer)⟩⟩

theorem Unfinished.issue (h : Unfinished crates request start saga store)
    {walletCall : WalletCall} :
    Unfinished crates request start saga
      (store.issue request.transferId allowNew walletCall) :=
  ⟨h.bound, h.apart, h.fresh, h.unsettled, h.without⟩

theorem Unfinished.becomes (h : Unfinished crates request start saga store)
    (hnext : next.request = saga.request) (hresult : next.result = saga.result) :
    Unfinished crates request start next store :=
  ⟨hnext.trans h.bound, h.apart, h.fresh, hresult.trans h.unsettled, h.without⟩

theorem save_result (listed : WalletTransaction → Prop) (hs : crates.Faithful)
    (h : Unfinished crates request start saga store) (hnext : next.request = request)
    (hpaid : ∀ transfer, next.result = some transfer → TransferPaid listed transfer) :
    ActsOn (Lists listed) (saveCrossMintTransferSaga crates next) store
      (fun _ => ResultKept crates listed request.transferId start) fun _ store' =>
        ResultKept crates listed request.transferId start store' ∧
          store'.saga crates request.transferId = some next := by
  have hbefore : ResultKept crates listed request.transferId start store := h.resultKept
  subst hnext
  apply fallible_bind_on fun _ => hbefore
  intro text htext
  have hdecode := hs next text (Except.mapError_eq_ok.mp htext)
  have hstored : (store.save next.request.transferId text).saga crates next.request.transferId =
      some next := by rw [saga_save hdecode, if_pos rfl]
  have hsaved : ResultKept crates listed next.request.transferId start
      (store.save next.request.transferId text) := by
    refine ⟨fun other hother => ?_, .inr ⟨h.fresh, ?_⟩⟩
    · simp only [TransferStore.save, Function.update_of_ne hother]
      exact h.apart other hother
    · rintro transfer ⟨found, hfound, hresult⟩
      obtain rfl := Option.some.inj (hstored.symm.trans hfound)
      exact hpaid transfer hresult
  refine ActsOn.seq (q := fun _ store' => ResultKept crates listed next.request.transferId start
    store' ∧ store'.saga crates next.request.transferId = some next) (ActsOn.call hbefore
      (fun _ _ => ⟨hsaved, hstored⟩) ?_ ?_) fun _ _ h => .pure h
  · intro n _
    split
    · exact hbefore
    · exact hsaved
  · intro n
    split
    · exact hbefore
    · exact hsaved

theorem save_keepsResult (hs : crates.Faithful) (h : Unfinished crates request start saga store) :
    ActsOn (Lists listed) (saveCrossMintTransferSaga crates saga) store
      (fun _ => ResultKept crates listed request.transferId start) fun _ store' =>
        Unfinished crates request start saga store' := by
  refine (save_result listed hs h h.bound fun transfer hresult => ?_).imp
    (fun _ _ h => h) fun _ store' ⟨hkept, hstored⟩ => ⟨h.bound, hkept.1, h.fresh, h.unsettled, ?_⟩
  · rw [h.unsettled] at hresult
    cases hresult
  · rintro transfer ⟨found, hfound, hresult⟩
    obtain rfl := Option.some.inj (hstored.symm.trans hfound)
    rw [h.unsettled] at hresult
    cases hresult

theorem quoteDestination_keepsResult (hs : crates.Faithful)
    (h : Unfinished crates request start saga store) :
    ActsOn (Lists listed) (quoteDestination crates request allowNew saga) store
      (fun _ => ResultKept crates listed request.transferId start)
        (Unfinished crates request start) := by
  refine .ite (fun _ => .pure h) fun _ => ?_
  apply ask_bind_on (fun _ => h.resultKept) fun _ => h.issue.resultKept
  intro quote
  apply bailIf_bind_on fun _ => h.issue.resultKept
  intro _
  apply fallible_bind_on fun _ => h.issue.resultKept
  intro _ _
  refine (save_keepsResult hs (h.issue.becomes ?_ ?_)).seq fun _ _ h' => .pure h'
  · rfl
  · rfl

theorem quoteSource_keepsResult (hs : crates.Faithful)
    (h : Unfinished crates request start saga store) {paymentRequest : String} :
    ActsOn (Lists listed) (quoteSource crates request allowNew saga paymentRequest) store
      (fun _ => ResultKept crates listed request.transferId start)
        (Unfinished crates request start) := by
  refine .ite (fun _ => .pure h) fun _ => ?_
  apply ask_bind_on (fun _ => h.resultKept) fun _ => h.issue.resultKept
  intro quote
  apply bailIf_bind_on fun _ => h.issue.resultKept
  intro _
  apply bailIf_bind_on fun _ => h.issue.resultKept
  intro _
  refine (save_keepsResult hs (h.issue.becomes ?_ ?_)).seq fun _ _ h' => .pure h'
  · rfl
  · rfl

theorem loadSourceQuote_keepsResult (h : Unfinished crates request start saga store)
    {paymentRequest : String} :
    ActsOn (Lists listed) (loadSourceQuote request saga paymentRequest) store
      (fun _ => ResultKept crates listed request.transferId start) fun _ =>
        Unfinished crates request start saga := by
  apply query_bind_on fun _ => h.resultKept
  intro stored _
  apply orBail_bind_on fun _ => h.resultKept
  intro sourceQuote _
  apply bailIf_bind_on fun _ => h.resultKept
  intro _
  apply orBail_bind_on fun _ => h.resultKept
  intro _ _
  apply bailIf_bind_on fun _ => h.resultKept
  intro _
  exact .pure h

theorem startPayment_keepsResult (hs : crates.Faithful)
    (h : Unfinished crates request start saga store) {quoteId : String} {record : MeltQuote} :
    ActsOn (Lists listed) (startPayment crates request allowNew saga quoteId record) store
      (fun _ => ResultKept crates listed request.transferId start)
        (Unfinished crates request start) := by
  apply bailIf_bind_on fun _ => h.resultKept
  intro _
  apply ask_bind_on (fun _ => h.resultKept) fun _ => h.issue.resultKept
  intro walletFeeSat
  apply orBail_bind_on fun _ => h.issue.resultKept
  intro preflightFeeSat _
  apply ActsOn.ite
  · intro _
    apply ask_bind_on (fun _ => h.issue.resultKept) fun _ => h.issue.issue.resultKept
    intro _
    exact .throw h.issue.issue.resultKept
  · intro _
    have hnext : Unfinished crates request start { saga with walletFeeSat := some walletFeeSat }
        (store.issue request.transferId allowNew (.prepareMelt quoteId record)) :=
      h.issue.becomes rfl rfl
    refine (save_keepsResult hs hnext).seq fun _ saved hsaved => ?_
    apply ask_bind_on (fun _ => hsaved.resultKept) fun _ => hsaved.issue.resultKept
    intro finalized
    apply bailIf_bind_on fun _ => hsaved.issue.resultKept
    intro _
    refine (save_keepsResult hs (hsaved.issue.becomes ?_ ?_)).seq fun _ _ h' => .pure h'
    · rfl
    · rfl

theorem payQuote_keepsResult (hs : crates.Faithful)
    (h : Unfinished crates request start saga store) {quoteId : String} {record : MeltQuote} :
    ActsOn (Lists listed) (payQuote crates request allowNew saga quoteId record) store
      (fun _ => ResultKept crates listed request.transferId start)
        (Unfinished crates request start) := by
  unfold payQuote
  cases record.state with
  | unpaid => exact startPayment_keepsResult hs h
  | paid => exact .pure h
  | _ => exact .throw h.resultKept

theorem recoverPayment_keepsResult (h : Unfinished crates request start saga store)
    {quoteId : String}
    {recoveredMelts : List FinalizedMelt} :
    ActsOn (Lists listed) (recoverPayment saga quoteId recoveredMelts) store
      (fun _ => ResultKept crates listed request.transferId start)
        (Unfinished crates request start) := by
  unfold recoverPayment
  split
  · exact .pure h
  · apply bailIf_bind_on fun _ => h.resultKept
    intro _
    exact .pure (h.becomes rfl rfl)

theorem paySource_keepsResult (hs : crates.Faithful)
    (h : Unfinished crates request start saga store) {quoteId : String} {record : MeltQuote}
    {recoveredMelts : List FinalizedMelt} :
    ActsOn (Lists listed) (paySource crates request allowNew saga quoteId record recoveredMelts)
      store
      (fun _ => ResultKept crates listed request.transferId start) fun paid store' =>
        Unfinished crates request start paid.1 store' ∧ ∀ transaction, paid.2 = some transaction →
          listed transaction ∧ transaction.quoteId = some quoteId := by
  have hfound : ∀ {answer : WalletAnswer} {transaction : WalletTransaction}, Lists listed answer →
      (answer.transactions.find? fun transaction => transaction.quoteId == some quoteId) =
        some transaction → listed transaction ∧ transaction.quoteId = some quoteId := by
    intro answer transaction hlists hfind
    exact ⟨hlists _ (List.mem_of_find?_eq_some hfind), by simpa using List.find?_some hfind⟩
  apply query_bind_on fun _ => h.resultKept
  intro answer hlists
  cases hfind : answer.transactions.find? fun transaction =>
      transaction.quoteId == some quoteId with
  | some transaction =>
    refine .pure ⟨h, fun transaction' heq => ?_⟩
    obtain rfl := Option.some.inj heq
    exact hfound hlists hfind
  | none =>
    refine (recoverPayment_keepsResult h).seq fun recovered _ h₁ => ?_
    refine (payQuote_keepsResult hs h₁).seq fun paid _ h₂ => ?_
    apply query_bind_on fun _ => h₂.resultKept
    intro answer' hlists'
    exact .pure ⟨h₂, fun transaction hfind' => hfound hlists' hfind'⟩

theorem issueDestination_keepsResult (h : Unfinished crates request start saga store)
    {destinationMint destinationQuoteId paymentRequest : String} :
    ActsOn (Lists listed)
      (issueDestination request allowNew destinationMint destinationQuoteId paymentRequest) store
      (fun _ => ResultKept crates listed request.transferId start) fun _ =>
        Unfinished crates request start saga := by
  apply query_bind_on fun _ => h.resultKept
  intro answer _
  apply bailIf_bind_on fun _ => h.resultKept
  intro _
  have hissue : ActsOn (Lists listed)
      (issueQuote request allowNew destinationQuoteId answer.mintQuote.state) store
      (fun _ => ResultKept crates listed request.transferId start) fun _ =>
        Unfinished crates request start saga := by
    apply ActsOn.ite
    · exact fun _ => ask_on (fun _ => h.resultKept) (fun _ => h.issue.resultKept) fun _ => h.issue
    · exact fun _ => fallible_on (fun _ => h.resultKept) fun _ _ => h
  refine hissue.seq fun _ _ h₁ => ?_
  apply query_bind_on fun _ => h₁.resultKept
  intro stored _
  apply orBail_bind_on fun _ => h₁.resultKept
  intro issuedQuote _
  exact fallible_on (fun _ => h₁.resultKept) fun _ _ => h₁

theorem completeTransfer_keepsResult (hs : crates.Faithful)
    (h : Unfinished crates request start saga store)
    {destinationMint destinationQuoteId paymentRequest quoteId : String}
    {transaction : Option WalletTransaction}
    (hlisted : ∀ found, transaction = some found → listed found ∧ found.quoteId = some quoteId) :
    ActsOn (Lists listed) (completeTransfer crates request allowNew destinationMint saga
      destinationQuoteId paymentRequest quoteId transaction) store
      (fun _ => ResultKept crates listed request.transferId start)
      fun transfer store' => ResultKept crates listed request.transferId start store' ∧
        store'.HasResult crates request.transferId transfer := by
  apply orBail_bind_on fun _ => h.resultKept
  intro paidTransaction hpaid
  obtain ⟨hpaid, hquote⟩ := hlisted paidTransaction hpaid
  have hnext : Unfinished crates request start
      { saga with feePaidSat := some paidTransaction.fee } store := h.becomes rfl rfl
  refine (save_keepsResult hs hnext).seq fun _ saved hsaved => ?_
  refine (issueDestination_keepsResult hsaved).seq fun _ issued hissued => ?_
  apply query_bind_on fun _ => hissued.resultKept
  intro answer _
  apply bailIf_bind_on fun _ => hissued.resultKept
  intro _
  refine (save_result listed hs hissued ?_ ?_).seq fun _ _ hfinal => .pure ?_
  · exact hissued.bound
  · rintro transfer ⟨⟩
    exact ⟨paidTransaction, hpaid, hquote, rfl⟩
  · exact ⟨hfinal.1, _, hfinal.2, rfl⟩

theorem advanceSaga_keepsResult (hs : crates.Faithful)
    (h : Unfinished crates request start saga store) {destinationMint : String}
    {recoveredMelts : List FinalizedMelt} :
    ActsOn (Lists listed) (advanceSaga crates request allowNew destinationMint saga recoveredMelts)
      store
      (fun _ => ResultKept crates listed request.transferId start) fun transfer store' =>
        ResultKept crates listed request.transferId start store' ∧
          store'.HasResult crates request.transferId transfer := by
  refine (quoteDestination_keepsResult hs h).seq fun saga₁ _ h₁ => ?_
  apply orBail_bind_on fun _ => h₁.resultKept
  intro destinationQuoteId _
  apply orBail_bind_on fun _ => h₁.resultKept
  intro paymentRequest _
  apply fallible_bind_on fun _ => h₁.resultKept
  intro _ _
  refine (quoteSource_keepsResult hs h₁).seq fun saga₂ _ h₂ => ?_
  apply orBail_bind_on fun _ => h₂.resultKept
  intro sourceQuoteId _
  refine (loadSourceQuote_keepsResult h₂).seq fun record _ h₃ => ?_
  exact (paySource_keepsResult hs h₃).seq fun paid _ h₄ => completeTransfer_keepsResult hs h₄.1 h₄.2

theorem bindSaga_keepsResult (hs : crates.Faithful) :
    ActsOn (Lists listed) (bindSaga crates request allowNew) start
      (fun _ => ResultKept crates listed request.transferId start) fun saga store' =>
        saga.request = request ∧ match saga.result with
          | some transfer => store' = start ∧ start.HasResult crates request.transferId transfer
          | none => Unfinished crates request start saga store' := by
  have hsame : ResultKept crates listed request.transferId start start := ⟨fun _ _ => rfl, .inl rfl⟩
  refine (loadCrossMintTransferSaga_on fun _ => hsame).seq fun found store' hload => ?_
  obtain ⟨rfl, hfound⟩ := hload
  cases found with
  | some saga =>
    apply bailIf_bind_on fun _ => hsame
    intro hbound
    simp only [not_or, ne_eq, not_not] at hbound
    refine .pure ⟨hbound.2, ?_⟩
    cases hresult : saga.result with
    | some transfer => exact ⟨rfl, saga, hfound.symm, hresult⟩
    | none =>
      refine ⟨hbound.2, fun _ _ => rfl, fun stored hstored => ?_, hresult, ?_⟩
      · rw [← hfound, Option.some.injEq] at hstored
        rw [← hstored, hresult]
      · rintro transfer ⟨stored, hstored, hsettled⟩
        rw [← hfound, Option.some.injEq] at hstored
        rw [← hstored, hresult] at hsettled
        cases hsettled
  | none =>
    apply bailIf_bind_on fun _ => hsame
    intro _
    apply query_bind_on fun _ => hsame
    intro answer _
    have hnew : Unfinished crates request store' ⟨crossMintTransferVersion, request, answer.amount,
        none, none, none, none, none, none, none⟩ store' := by
      refine ⟨rfl, fun _ _ => rfl, fun stored hstored => ?_, rfl, ?_⟩
      · rw [← hfound] at hstored
        cases hstored
      · rintro transfer ⟨stored, hstored, -⟩
        rw [← hfound] at hstored
        cases hstored
    exact (save_keepsResult hs hnew).seq fun _ _ h => .pure ⟨rfl, h⟩

theorem transferBetweenWalletsWithStart_keepsResult (hs : crates.Faithful)
    {destinationMint : String} :
    ActsOn (Lists listed) (transferBetweenWalletsWithStart crates request allowNew destinationMint)
      start
      (fun _ => ResultKept crates listed request.transferId start) fun transfer store' =>
        ResultKept crates listed request.transferId start store' ∧
          store'.HasResult crates request.transferId transfer := by
  have hsame : ResultKept crates listed request.transferId start start := ⟨fun _ _ => rfl, .inl rfl⟩
  apply query_bind_on fun _ => hsame
  intro recoveredMelts _
  apply query_bind_on fun _ => hsame
  intro _ _
  apply query_bind_on fun _ => hsame
  intro _ _
  refine (bindSaga_keepsResult hs).seq fun saga store' hbound => ?_
  obtain ⟨-, hbound⟩ := hbound
  cases hresult : saga.result with
  | some transfer =>
    rw [hresult] at hbound
    obtain ⟨rfl, hstored⟩ := hbound
    exact .pure ⟨hsame, hstored⟩
  | none =>
    rw [hresult] at hbound
    exact advanceSaga_keepsResult hs hbound

/-- What a call may do, of which the request may be refused. -/
def CallKept (crates : TransferCrates) (listed : WalletTransaction → Prop) (call : TransferCall)
    (start store : TransferStore) : Prop :=
  store = start ∨ ∃ request, call.request crates = .ok request ∧
    ResultKept crates listed request.transferId start store

theorem TransferCall.run_keepsResult (hs : crates.Faithful) (call : TransferCall) :
    ActsOn (Lists listed) (call.run crates) start (fun _ => CallKept crates listed call start)
      fun transfer store' => ∃ request, call.request crates = .ok request ∧
        ResultKept crates listed request.transferId start store' ∧
        store'.HasResult crates request.transferId transfer := by
  refine call.run_on (fun _ => .inl rfl) ?_ fun canonical _ hcanonical => ?_
  · rintro transfer store' ⟨request, hrequest, hkept, -⟩ _
    exact .inr ⟨request, hrequest, hkept⟩
  · exact (transferBetweenWalletsWithStart_keepsResult hs).imp
      (fun _ _ h => .inr ⟨canonical, hcanonical, h⟩) fun _ _ h => ⟨canonical, hcanonical, h⟩

namespace TransferStore

variable {transferId : String} {transfer : CashuCrossMintTransfer}

theorem HasResult.unique {transfer' : CashuCrossMintTransfer}
    (h : store.HasResult crates transferId transfer)
    (h' : store.HasResult crates transferId transfer') : transfer' = transfer := by
  obtain ⟨saga, hsaga, hresult⟩ := h
  obtain ⟨saga', hsaga', hresult'⟩ := h'
  rw [hsaga, Option.some.injEq] at hsaga'
  rw [← hsaga', hresult, Option.some.injEq] at hresult'
  exact hresult'.symm

theorem HasResult.kept (h : start.HasResult crates transferId transfer) {other : String}
    (hkept : ResultKept crates listed other start store) :
    store.HasResult crates transferId transfer := by
  obtain ⟨saga, hsaga, hresult⟩ := h
  by_cases hother : transferId = other
  · subst hother
    rcases hkept.2 with rfl | ⟨hfresh, -⟩
    · exact ⟨saga, hsaga, hresult⟩
    · rw [hfresh saga hsaga] at hresult
      cases hresult
  · exact ⟨saga, by rw [TransferStore.saga, hkept.1 transferId hother]; exact hsaga, hresult⟩

theorem HasResult.told (h : store.HasResult crates transferId transfer) {other : String}
    (hkept : ResultKept crates listed other start store) :
    start.HasResult crates transferId transfer ∨ TransferPaid listed transfer := by
  by_cases hother : transferId = other
  · subst hother
    rcases hkept.2 with rfl | ⟨-, hpaid⟩
    · exact .inl h
    · exact .inr (hpaid transfer h)
  · obtain ⟨saga, hsaga, hresult⟩ := h
    refine .inl ⟨saga, ?_, hresult⟩
    rwa [TransferStore.saga, ← hkept.1 transferId hother]

theorem HasResult.done (h : start.HasResult crates transferId transfer)
    (hkept : ResultKept crates listed transferId start store) : store = start := by
  obtain ⟨saga, hsaga, hresult⟩ := h
  rcases hkept.2 with hsame | ⟨hfresh, -⟩
  · exact hsame
  · rw [hfresh saga hsaga] at hresult
    cases hresult

end TransferStore

def Listed (replies : List (Reply WalletAnswer)) (transaction : WalletTransaction) : Prop :=
  ∃ answer, .returns answer ∈ replies ∧ transaction ∈ answer.transactions

theorem lists_listed (replies : List (Reply WalletAnswer)) :
    Answers (Lists (Listed replies)) replies :=
  fun answer hanswer _ htransaction => ⟨answer, hanswer, htransaction⟩

namespace TransferStore

variable {transferId : String} {transfer : CashuCrossMintTransfer}

theorem exec_kept_result (hs : crates.Faithful) (call : TransferCall)
    (replies : List (Reply WalletAnswer)) :
    CallKept crates (Listed replies) call start (start.exec crates call replies) := by
  refine ((call.run_keepsResult hs).imp (fun _ _ h => h) ?_).leaves (lists_listed replies)
  exact fun _ _ ⟨request, hrequest, hkept, _⟩ => .inr ⟨request, hrequest, hkept⟩

theorem HasResult.after (hs : crates.Faithful) (h : start.HasResult crates transferId transfer)
    (calls : List (TransferCall × List (Reply WalletAnswer))) :
    (start.after crates calls).HasResult crates transferId transfer := by
  induction calls generalizing start with
  | nil => exact h
  | cons call calls ih =>
    apply ih
    rcases exec_kept_result hs call.1 call.2 with hsame | ⟨request, -, hkept⟩
    · change (start.exec crates call.1 call.2).HasResult crates transferId transfer
      rwa [hsame]
    · exact h.kept hkept

/-- The result of a run of calls was there at the start, or tells of a payment that was listed in
one of them. -/
theorem HasResult.told_after (hs : crates.Faithful)
    {calls : List (TransferCall × List (Reply WalletAnswer))}
    (h : (start.after crates calls).HasResult crates transferId transfer) :
    start.HasResult crates transferId transfer ∨
      ∃ call ∈ calls, TransferPaid (Listed call.2) transfer := by
  induction calls generalizing start with
  | nil => exact .inl h
  | cons call calls ih =>
    rcases ih h with hfirst | ⟨later, hlater, hpaid⟩
    · rcases exec_kept_result hs call.1 call.2 with hsame | ⟨request, -, hkept⟩
      · refine .inl ?_
        change (start.exec crates call.1 call.2).HasResult crates transferId transfer at hfirst
        rwa [hsame] at hfirst
      · exact (hfirst.told hkept).imp_right fun hpaid => ⟨call, List.mem_cons_self, hpaid⟩
    · exact .inr ⟨later, List.mem_cons_of_mem _ hlater, hpaid⟩

end TransferStore

variable {authorization : ExternalSettlementAuthorization} {route : CashuIssuerRoute}
  {nowUnix : UInt64}

theorem settle_transferId
    (h : (TransferCall.settle authorization route nowUnix).request crates = .ok request) :
    request.transferId = authorization.settlementId := by
  simp only [TransferCall.request, Except.bind_eq_ok] at h
  obtain ⟨bound, hbound, hnormalized⟩ := h
  obtain ⟨htrim, -, -, -, source, -, rfl⟩ := eq_of_bindCashuSettlement hbound
  obtain ⟨-, -, -, -, -, _, _, -, -, -, rfl⟩ :=
    normalizeCrossMintTransferRequest_eq_ok.mp hnormalized
  exact htrim

theorem executeCashuSettlement_matches :
    Acts (executeCashuSettlement crates authorization route nowUnix) start (fun _ _ => True)
      fun transfer _ => transfer.transferId = authorization.settlementId ∧
        transfer.destinationMintUrl = authorization.payoutDestination ∧
        transfer.amountSat = authorization.amountSat ∧
        transfer.feePaidSat ≤ authorization.maxFeeSat := by
  apply fallible_bind fun _ => trivial
  intro request hrequest
  obtain ⟨-, -, -, -, source, -, rfl⟩ := eq_of_bindCashuSettlement hrequest
  refine Acts.seq (q := fun _ _ => True)
    (fun _ => .intro (fun _ _ _ => trivial) fun _ _ _ => trivial) fun transfer _ _ => ?_
  apply bailIf_bind fun _ => trivial
  intro hmatches
  simp only [not_or, ne_eq, not_not] at hmatches
  exact .pure ⟨hmatches.1, hmatches.2.2.1, hmatches.2.2.2.1,
    UInt64.not_lt.mp hmatches.2.2.2.2.2.1⟩

/-- A settlement that was executed can be booked: the account that authorized it takes the fee that
was paid and releases the rest. That fee is the one of the wallet's own transaction for the melt
quote. To execute the settlement again, after whatever else, gives the same transfer or an error,
and does nothing. -/
theorem executed_settlement_booked (hs : crates.Faithful) {account : CreditAccount}
    (hreachable : account.Reachable) (hrevision : account.revision.toNat < 2 ^ 64 - 1)
    (hpending : authorization ∈ account.pendingExternalSettlementAuthorizations)
    {earlier : List (TransferCall × List (Reply WalletAnswer))}
    {replies : List (Reply WalletAnswer)} {transfer : CashuCrossMintTransfer}
    {p : Process WalletAnswer TransferStore}
    (hrun : executeCashuSettlement crates authorization route nowUnix
      ⟨start.after crates earlier, replies⟩ = .ok transfer p) :
    (transfer.transferId = authorization.settlementId ∧
      transfer.destinationMintUrl = authorization.payoutDestination ∧
      transfer.amountSat = authorization.amountSat) ∧
    (start.HasResult crates authorization.settlementId transfer ∨
      TransferPaid (Listed replies) transfer ∨ ∃ call ∈ earlier, TransferPaid (Listed call.2)
        transfer) ∧
    (∃ account', completeExternalSettlement authorization.settlementId transfer.feePaidSat account =
        .ok () account' ∧
      account.Releases authorization.issuer
        (authorization.amountSat.toNat + transfer.feePaidSat.toNat)
        (authorization.maxFeeSat.toNat - transfer.feePaidSat.toNat) account') ∧
    ∀ calls route' nowUnix' replies',
      (p.durable.after crates calls).exec crates (.settle authorization route' nowUnix') replies' =
        p.durable.after crates calls ∧
      ∀ transfer' p', executeCashuSettlement crates authorization route' nowUnix'
        ⟨p.durable.after crates calls, replies'⟩ = .ok transfer' p' → transfer' = transfer := by
  obtain ⟨hid, hdestination, hamount, hfee⟩ := executeCashuSettlement_matches.of_ok hrun
  obtain ⟨request, hrequest, hkept, hstored⟩ := (@TransferCall.run_keepsResult crates
    (Listed replies) (start.after crates earlier) hs
    (.settle authorization route nowUnix)).of_ok (lists_listed replies) hrun
  rw [settle_transferId hrequest] at hkept hstored
  refine ⟨⟨hid, hdestination, hamount⟩, ?_, ?_, fun calls route' nowUnix' replies' => ?_⟩
  · rcases hstored.told hkept with hbefore | hpaid
    · exact (hbefore.told_after hs).imp_right .inr
    · exact .inr (.inl hpaid)
  · obtain ⟨id, x, hx, hstate, rfl⟩ := mem_pending.mp hpending
    have hkept := hreachable.coherent.settlements id x hx
    have hfiled := authorizationId_of_kept hkept
    have hrequest := hkept.authorization
    have hmax : x.authorization.maxFeeSat = x.request.maxFeeSat := by rw [hrequest]; rfl
    have hsum : x.authorization.amountSat = x.request.amountSat := by rw [hrequest]; rfl
    have hissuer : x.authorization.issuer = x.request.issuer := by rw [hrequest]; rfl
    rw [hmax] at hfee
    obtain ⟨account', hcompleted⟩ :=
      complete_progress hreachable.coherent hx hstate hrevision hfee
    refine ⟨account', hfiled ▸ hcompleted, ?_⟩
    rw [hmax, hsum, hissuer]
    exact (complete_effect hx hstate hcompleted).2
  · have hlater := hstored.after hs calls
    constructor
    · rcases TransferStore.exec_kept_result hs (.settle authorization route' nowUnix') replies' with
        hsame | ⟨request', hrequest', hkept'⟩
      · exact hsame
      · rw [settle_transferId hrequest'] at hkept'
        exact hlater.done hkept'
    · intro transfer' p' hrun'
      obtain ⟨request', hrequest', hkept', hstored'⟩ := (@TransferCall.run_keepsResult crates
        (Listed replies') _ hs (.settle authorization route' nowUnix')).of_ok
          (lists_listed replies') hrun'
      rw [settle_transferId hrequest'] at hkept' hstored'
      exact (hlater.kept hkept').unique hstored'

end

def sampleSettledRequest : CashuCrossMintTransferRequest :=
  { sampleTransfer "settlement-1" with amountSat := 250000 }

def sampleSettledTransfer : CashuCrossMintTransfer where
  transferId := "settlement-1"
  sourceMintUrl := "https://source.example"
  destinationMintUrl := "https://destination.example"
  unit := "sat"
  amountSat := 250000
  maxFeeSat := 2
  meltFeeReserveSat := 1
  walletFeeSat := 1
  feePaidSat := 1
  sourceMeltQuoteId := "melt-1"
  destinationMintQuoteId := "mint-1"
  destinationBalanceBeforeSat := 1
  destinationBalanceAfterSat := 250001

/-- The saga as it is written on the way, the last time with its result. -/
def sampleSettledSagas : List (CashuCrossMintTransferSaga × String) :=
  let opened : CashuCrossMintTransferSaga :=
    ⟨crossMintTransferVersion, sampleSettledRequest, 1, none, none, none, none, none, none, none⟩
  let invoiced := {
    opened with
    destinationMintQuoteId := some "mint-1", destinationPaymentRequest := some sampleInvoice }
  let quoted := { invoiced with sourceMeltQuoteId := some "melt-1", meltFeeReserveSat := some 1 }
  let prepared := { quoted with walletFeeSat := some 1 }
  let paid := { prepared with feePaidSat := some 1 }
  let text (saga : CashuCrossMintTransferSaga) := (saga, sagaText saga)
  [text opened, text invoiced, text quoted, text prepared, text paid,
    ({ paid with result := some sampleSettledTransfer },
      sagaTextWith (
        "\x7b\"transfer_id\":\"settlement-1\"," ++
        "\"source_mint_url\":\"https://source.example\"," ++
        "\"destination_mint_url\":\"https://destination.example\",\"unit\":\"sat\"," ++
        "\"amount_sat\":250000,\"max_fee_sat\":2,\"melt_fee_reserve_sat\":1," ++
        "\"wallet_fee_sat\":1,\"fee_paid_sat\":1,\"source_melt_quote_id\":\"melt-1\"," ++
        "\"destination_mint_quote_id\":\"mint-1\",\"destination_balance_before_sat\":1," ++
        "\"destination_balance_after_sat\":250001\x7d") paid)]

def sampleSettledCrates : TransferCrates where
  url := sampleUrlCrate
  mintUrlFromStr := .ok
  bolt11AmountMsat := sampleCrates.bolt11AmountMsat
  encodeSaga saga :=
    okOr ((sampleSettledSagas.find? fun entry => entry.1 = saga).map Prod.snd) ["unknown saga"]
  decodeSaga text :=
    okOr ((sampleSettledSagas.find? fun entry => entry.2 = text).map Prod.fst) ["unknown text"]

theorem sampleSettledCrates_reads : ∀ entry ∈ sampleSettledSagas,
    sampleSettledCrates.decodeSaga entry.2 = .ok entry.1 := by decide +kernel

theorem sampleSettledCrates_faithful : sampleSettledCrates.Faithful := by
  intro saga text h
  obtain ⟨entry, hfind, rfl⟩ := Option.map_eq_some_iff.mp (okOr_eq_ok.mp h)
  have hentry : entry.1 = saga := by simpa using List.find?_some hfind
  rw [← hentry]
  exact sampleSettledCrates_reads entry (List.mem_of_find?_eq_some hfind)

/-- The payment is made, and the quote of the other mint is paid and issued. -/
def samplePaidAnswer : WalletAnswer :=
  { sampleAnswer with
    amount := 250001
    mintQuote := { sampleAnswer.mintQuote with state := .paid }
    storedMintQuote :=
      some { sampleAnswer.mintQuote with state := .issued, amountIssued := 250000 }
    transactions := [⟨some "melt-1", 1⟩] }

/-- Nothing is paid before the calls that open the wallets, quote and pay. -/
def sampleSettlingReplies : List (Reply WalletAnswer) :=
  List.replicate 22 (.returns sampleAnswer) ++ List.replicate 10 (.returns samplePaidAnswer)

/-- An account with one issuer that may owe as much as the invoice asks for. -/
def sampleSettlingPolicy : IssuerPolicy := ⟨"alpha", 300000, 300000, 300000, 300000, none⟩

def sampleSettlingAccount : CreditAccount :=
  { sampleAccount with
    maxTotalPeerCreditSat := 300000
    issuers := (∅ : BTreeMap String IssuerState).insert "alpha" (.new sampleSettlingPolicy) }

theorem sampleSettlingAccount_new :
    CreditAccount.new ⟨"peer", 300000, [sampleSettlingPolicy]⟩ = .ok sampleSettlingAccount := rfl

def sampleSettlingOperations : List Operation :=
  [.recordBackingDeposit ⟨"d1", "alpha", 300000, .reserveBackedWithdrawable⟩ "alpha",
    .applyReceipt (sampleReceipt "r1" 260000 .reserveBackedWithdrawable) "alpha" .online 15,
    .authorizeExternalSettlement
      ⟨"settlement-1", "alpha", "peer", "https://destination.example", 250000, 2, 20⟩ "peer" 15]

def sampleAuthorization : ExternalSettlementAuthorization where
  settlementId := "settlement-1"
  issuer := "alpha"
  counterparty := "peer"
  payoutDestination := "https://destination.example"
  amountSat := 250000
  maxFeeSat := 2
  reservedSat := 250002
  authorizedAtUnix := 15
  expiresAtUnix := 20

def sampleSettlementRoute : CashuIssuerRoute := ⟨"alpha", "https://source.example/"⟩

theorem executed_settlement_booked_sample :
    TransferPaid (Listed sampleSettlingReplies) sampleSettledTransfer ∧
      ∃ account', completeExternalSettlement "settlement-1" 1
          (sampleSettlingAccount.after sampleSettlingOperations) = .ok () account' ∧
        (sampleSettlingAccount.after sampleSettlingOperations).Releases "alpha" 250001 1
          account' := by
  have hpending : sampleAuthorization ∈ (sampleSettlingAccount.after
      sampleSettlingOperations).pendingExternalSettlementAuthorizations := by
    decide +kernel
  have hresult : EStateM.run' (executeCashuSettlement sampleSettledCrates sampleAuthorization
      sampleSettlementRoute 16)
        ⟨TransferStore.empty.after sampleSettledCrates [], sampleSettlingReplies⟩ =
          some sampleSettledTransfer := by
    decide +kernel
  obtain ⟨p, hrun⟩ := eq_ok_of_run' hresult
  obtain ⟨-, hpaid, hbooked, -⟩ := executed_settlement_booked sampleSettledCrates_faithful
    ((CreditAccount.Reachable.new sampleSettlingAccount_new).after sampleSettlingOperations)
    (by decide +kernel) hpending hrun
  refine ⟨?_, hbooked⟩
  rcases hpaid with ⟨saga, hsaga, -⟩ | hpaid | ⟨call, hcall, -⟩
  · cases hsaga
  · exact hpaid
  · cases hcall

end CashuService

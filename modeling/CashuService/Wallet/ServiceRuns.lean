import CashuService.Wallet.Service
set_option autoImplicit false

namespace CashuService

/-- The status that the code may give to an entry of a kind. A reclaimed send stays one. -/
def MayBecome (kind : CashuWalletActivityKind) (before after : CashuWalletActivityStatus) : Prop :=
  after = before ∨ match kind with
    | .topUp => after ≠ .reclaimed
    | .tokenSend => after = .reclaimed ∨ before = .pending ∧ after = .complete
    | _ => False

namespace CashuWalletActivityEntry

def Follows (before after : CashuWalletActivityEntry) : Prop :=
  after = { before with status := after.status } ∧
    MayBecome before.kind before.status after.status

variable {a b c : CashuWalletActivityEntry}

theorem Follows.refl (a : CashuWalletActivityEntry) : a.Follows a := ⟨rfl, .inl rfl⟩

theorem Follows.key (h : a.Follows b) : b.key = a.key := by
  rw [h.1]
  rfl

theorem Follows.id (h : a.Follows b) : b.id = a.id := by
  rw [h.1]

theorem Follows.kind (h : a.Follows b) : b.kind = a.kind := by
  rw [h.1]

theorem Follows.operationId (h : a.Follows b) : b.operationId = a.operationId := by
  rw [h.1]

theorem Follows.trans (hab : a.Follows b) (hbc : b.Follows c) : a.Follows c := by
  refine ⟨?_, ?_⟩
  · rw [hbc.1, hab.1]
  · have hfirst := hab.2
    have hsecond := hbc.2
    rw [hab.kind] at hsecond
    cases hkind : a.kind <;> simp only [hkind, MayBecome, or_false] at hfirst hsecond ⊢ <;> grind

end CashuWalletActivityEntry

/-- The entry that a call records when it has had this effect. -/
def WalletEffect.recorded (world : CdkWorld) : WalletEffect → Option CashuWalletActivityEntry
  | .quoted mintUrl amountSat quote => some (topupEntry world
      ⟨mintUrl, CurrencyUnit.sat.toString, amountSat, quote.id, quote.request, quote.expiry⟩)
  | .paid mintUrl paymentRequest melt => some (lightningEntry world paymentRequest
      ⟨mintUrl, CurrencyUnit.sat.toString, melt.amount, melt.feePaid, melt.quoteId,
        melt.paymentProof.getD ""⟩)
  | .sent mintUrl amountSat _ prepared token => some (sendEntry world
      ⟨mintUrl, CurrencyUnit.sat.toString, amountSat, prepared.sendFee, prepared.operationId,
        token⟩)
  | .received mintUrl _ amountSat => some (receiveEntry world
      ⟨mintUrl, CurrencyUnit.sat.toString, amountSat⟩)
  | .revoked _ _ => none

def WalletEffect.Describes (entry : CashuWalletActivityEntry) (effect : WalletEffect) : Prop :=
  ∃ world recorded, effect.recorded world = some recorded ∧ recorded.Follows entry

/-- A token for a keyset is made of its proofs alone. -/
def WalletEffect.OfKeyset : WalletEffect → Prop
  | .sent _ _ (some keysetId) prepared _ => ∀ proof ∈ prepared.proofs, proof.keysetId = keysetId
  | _ => True

structure SameLog (s s' : ServiceState) : Prop where
  effects : s'.effects = s.effects
  activity : s'.connection.tables.activity = s.connection.tables.activity

/-- A list with one more entry is stored. -/
def Appended (entry : CashuWalletActivityEntry) (database database' : WalletDatabase) : Prop :=
  ∃ shown, database.shown = .ok shown ∧
    database'.shown = .ok (sortWalletActivityEntries (shown ++ [entry]))

/-- What was done is recorded. -/
structure Moved (world : CdkWorld) (effect : WalletEffect) (s s' : ServiceState) : Prop where
  effects : s'.effects = s.effects ++ [effect]
  keyset : effect.OfKeyset
  recorded : ∃ entry, effect.recorded world = some entry ∧
    Appended entry s.connection.tables s'.connection.tables

def WalletEffect.unrecorded : WalletEffect → String
  | .quoted _ _ _ => "Failed to record Cashu top-up activity"
  | .paid _ _ _ => "Failed to record Cashu Lightning payment activity"
  | .sent _ _ _ _ _ => "Failed to record Cashu token activity"
  | .received _ _ _ => "Failed to record Cashu receive activity"
  | .revoked _ _ => "Failed to record reclaimed Cashu token"

def WalletEffect.unfinished : WalletEffect → Option String
  | .paid _ _ melt =>
    if melt.state ≠ .paid then
      some s!"Cashu Lightning payment finished in unexpected state {melt.state.toString}"
    else if melt.paymentProof.filter (· ≠ "") = none then
      some "Cashu Lightning payment completed without a preimage"
    else none
  | _ => none

/-- The error tells of this effect: what became of it, or that it was not recorded. -/
def WalletEffect.ToldBy (effect : WalletEffect) (e : WalletError) : Prop :=
  match effect.unfinished with
  | some message => e = ⟨[], .other message⟩
  | none => e.contexts.head? = some effect.unrecorded

/-- A call that fails has done nothing with money, or its error tells what. -/
def FailedWith (s : ServiceState) (e : WalletError) (s' : ServiceState) : Prop :=
  s'.connection.tables.shown = s.connection.tables.shown ∧
    (s'.effects = s.effects ∨ ∃ effect, s'.effects = s.effects ++ [effect] ∧ effect.OfKeyset ∧
      effect.ToldBy e)

variable {α : Type} {s s' s'' : ServiceState} {text : String} {database database' : WalletDatabase}

theorem SameLog.refl (s : ServiceState) : SameLog s s := ⟨rfl, rfl⟩

theorem SameLog.trans (h : SameLog s s') (h' : SameLog s' s'') : SameLog s s'' :=
  ⟨h'.effects.trans h.effects, h'.activity.trans h.activity⟩

theorem WalletDatabase.shown_congr (h : database'.activity = database.activity) :
    database'.shown = database.shown := by
  simp only [WalletDatabase.shown, WalletDatabase.storedEntries, h]

theorem SameLog.failed (h : SameLog s s') (e : WalletError) : FailedWith s e s' :=
  ⟨WalletDatabase.shown_congr h.activity, .inl h.effects⟩

theorem onStore_ends {x : WalletM α} {err : WalletError → Connection String WalletDatabase → Prop}
    {ok : α → Connection String WalletDatabase → Prop} (h : Ends x s.connection err ok) :
    Ends (onStore x) s (fun e s' => s'.effects = s.effects ∧ err e s'.connection)
      fun a s' => s'.effects = s.effects ∧ ok a s'.connection :=
  .zoom (h.imp (fun _ _ h => ⟨rfl, h⟩) fun _ _ h => ⟨rfl, h⟩)

theorem askCdk_ends {answer : CdkAnswer α} :
    Ends (askCdk text answer) s (fun _ s' => SameLog s s') fun a s' =>
      SameLog s s' ∧ answer.result = .ok a := by
  have hchange : Ends
      (onStore (modify fun c => { c with tables := answer.change.apply c.tables })) s
      (fun _ s' => SameLog s s') fun _ s' => SameLog s s' :=
    .zoom (.modify ⟨rfl, answer.change.apart _⟩)
  refine .seq hchange fun _ s' hs' => .attempt (fun _ _ => hs') fun a ha => ⟨hs', ?_⟩
  rwa [Except.mapError_eq_ok, withContext, Except.mapError_eq_ok] at ha

theorem askCdk_bind {β : Type} {answer : CdkAnswer α} {f : α → ServiceM β}
    {ok : β → ServiceState → Prop} (h : SameLog s s')
    (hf : ∀ a s'', SameLog s s'' → answer.result = .ok a → Ends (f a) s'' (FailedWith s) ok) :
    Ends (askCdk text answer >>= f) s' (FailedWith s) ok :=
  .seq (askCdk_ends.imp (fun e _ h' => (h.trans h').failed e) fun _ _ h' => h')
    fun a s'' ha => hf a s'' (h.trans ha.1) ha.2

theorem attempt_bind_same {β : Type} {r : Except WalletError α} {f : α → ServiceM β}
    {ok : β → ServiceState → Prop} (h : SameLog s s')
    (hf : ∀ a, r = .ok a → Ends (f a) s' (FailedWith s) ok) :
    Ends (attempt r >>= f) s' (FailedWith s) ok :=
  .attempt_bind (fun e _ => h.failed e) hf

theorem bail_ends {ok : α → ServiceState → Prop} (h : SameLog s s') :
    Ends (bail text : ServiceM α) s' (FailedWith s) ok :=
  .throw (h.failed _)

theorem perform_ends {answer : CdkAnswer α} {effect : α → WalletEffect} :
    Ends (perform text answer effect) s (fun _ s' => SameLog s s') fun a s' =>
      s'.effects = s.effects ++ [effect a] ∧
        s'.connection.tables.activity = s.connection.tables.activity := by
  refine .seq askCdk_ends fun a s' hs' => .modify_bind (.pure ⟨?_, hs'.1.activity⟩)
  simp [hs'.1.effects]

theorem sort_sorted (entries : List CashuWalletActivityEntry) :
    sortWalletActivityEntries (sortWalletActivityEntries entries) =
      sortWalletActivityEntries entries := by
  simp only [sortWalletActivityEntries_eq_newest, newest_newest]

theorem append_shown (entry : CashuWalletActivityEntry) {c : Connection String WalletDatabase} :
    Ends (appendWalletActivityEntry entry) c
      (fun _ c' => c'.tables.activity = c.tables.activity)
      fun _ c' => Appended entry c.tables c'.tables := by
  refine (append_ends entry).imp (fun _ _ h => by rw [h]) fun _ c' happend => ?_
  obtain ⟨stored, hstored, htables⟩ := happend
  refine ⟨_, WalletDatabase.shown_eq_ok.mpr ⟨stored, hstored, rfl⟩, ?_⟩
  rw [htables, WalletDatabase.shown_eq_ok]
  exact ⟨_, entriesFromJson_toJson _, (sort_sorted _).symm⟩

theorem recordActivity_ends {entry : CashuWalletActivityEntry} :
    Ends (recordActivity text entry) s
      (fun e s' => SameLog s s' ∧ e.contexts.head? = some text) fun _ s' =>
      s'.effects = s.effects ∧ Appended entry s.connection.tables s'.connection.tables :=
  .zoom (.mapErr ((append_shown entry).imp (fun _ _ h => ⟨⟨rfl, h⟩, rfl⟩) fun _ _ h => ⟨rfl, h⟩))

theorem record_moved {world : CdkWorld} {entry : CashuWalletActivityEntry} {a : α}
    {ok : α → ServiceState → Prop} (effect : WalletEffect)
    (heffects : s'.effects = s.effects ++ [effect])
    (hactivity : s'.connection.tables.activity = s.connection.tables.activity)
    (hkeyset : effect.OfKeyset) (hrecorded : effect.recorded world = some entry)
    (hfinished : effect.unfinished = none) (htext : effect.unrecorded = text)
    (hok : ∀ s'', Moved world effect s s'' → ok a s'') :
    Ends (do recordActivity text entry; return a) s' (FailedWith s) ok := by
  refine .seq (recordActivity_ends.imp (fun e s'' h => ?_) fun _ _ h => h) fun _ s'' h => ?_
  · refine ⟨WalletDatabase.shown_congr (h.1.activity.trans hactivity),
      .inr ⟨effect, ?_, hkeyset, ?_⟩⟩
    · rw [h.1.effects, heffects]
    · rw [WalletEffect.ToldBy, hfinished, htext]
      exact h.2
  · refine .pure (hok s'' ⟨by rw [h.1, heffects], hkeyset, entry, hrecorded, ?_⟩)
    obtain ⟨shown, hshown, happended⟩ := h.2
    exact ⟨shown, (WalletDatabase.shown_congr hactivity) ▸ hshown, happended⟩

variable {crates : ServiceCrates} {world : CdkWorld} {mintUrl : String} {amountSat : UInt64}

theorem parseMintUrl_bind {β : Type} {f : String → ServiceM β} {ok : β → ServiceState → Prop}
    (h : SameLog s s')
    (hf : ∀ normalizedMint, normalizeMintUrl crates.proofs.url mintUrl = .ok normalizedMint →
      Ends (f normalizedMint) s' (FailedWith s) ok) :
    Ends (parseMintUrl crates mintUrl >>= f) s' (FailedWith s) ok := by
  refine .seq (q := fun normalizedMint s'' => s'' = s' ∧
    normalizeMintUrl crates.proofs.url mintUrl = .ok normalizedMint) ?_ ?_
  · refine attempt_bind_same h fun normalizedMint hmint => ?_
    refine attempt_bind_same h fun _ _ => .pure ⟨rfl, ?_⟩
    rwa [Except.mapError_eq_ok] at hmint
  · rintro normalizedMint s'' ⟨rfl, hmint⟩
    exact hf normalizedMint hmint

theorem createTopupQuote_ends :
    Ends (createTopupQuote crates world mintUrl amountSat) s (FailedWith s) fun topupQuote s' =>
      ∃ quote, topupQuote = ⟨topupQuote.mintUrl, CurrencyUnit.sat.toString, amountSat, quote.id,
          quote.request, quote.expiry⟩ ∧
        Moved world (.quoted topupQuote.mintUrl amountSat quote) s s' := by
  refine .ite (fun _ => bail_ends (.refl s)) fun _ => ?_
  refine parseMintUrl_bind (.refl s) fun normalizedMint _ => ?_
  refine attempt_bind_same (.refl s) fun _ _ => ?_
  refine askCdk_bind (.refl s) fun _ s₁ h₁ _ => ?_
  refine askCdk_bind h₁ fun _ s₂ h₂ _ => ?_
  refine .seq (perform_ends.imp (fun e _ h => (h₂.trans h).failed e) fun _ _ h => h)
    fun quote s₃ h₃ => ?_
  exact record_moved (.quoted normalizedMint amountSat quote) (by rw [h₃.1, h₂.effects])
    (h₃.2.trans h₂.activity) trivial rfl rfl rfl fun s₄ h₄ => ⟨quote, rfl, h₄⟩

theorem sendLightningPayment_ends {paymentRequest : String} :
    Ends (sendLightningPayment crates world mintUrl paymentRequest) s (FailedWith s)
      fun payment s' => ∃ melt, melt.state = .paid ∧ melt.paymentProof = some payment.preimage ∧
        payment = ⟨payment.mintUrl, CurrencyUnit.sat.toString, melt.amount, melt.feePaid,
          melt.quoteId, payment.preimage⟩ ∧
        Moved world (.paid payment.mintUrl paymentRequest melt) s s' := by
  refine parseMintUrl_bind (.refl s) fun normalizedMint _ => ?_
  refine attempt_bind_same (.refl s) fun _ _ => ?_
  refine .seq (q := fun payment s' => ∃ melt, melt.state = .paid ∧
    melt.paymentProof = some payment.preimage ∧
    payment = ⟨normalizedMint, CurrencyUnit.sat.toString, melt.amount, melt.feePaid, melt.quoteId,
      payment.preimage⟩ ∧ (WalletEffect.paid normalizedMint paymentRequest melt).unfinished = none ∧
    s'.effects = s.effects ++ [.paid normalizedMint paymentRequest melt] ∧
    s'.connection.tables.activity = s.connection.tables.activity) ?_ ?_
  · refine askCdk_bind (.refl s) fun _ s₁ h₁ _ => ?_
    refine askCdk_bind h₁ fun _ s₂ h₂ _ => ?_
    refine askCdk_bind h₂ fun _ s₃ h₃ _ => ?_
    refine .seq (perform_ends.imp (fun e _ h => (h₃.trans h).failed e) fun _ _ h => h)
      fun melt s₄ h₄ => ?_
    have htold : ∀ message,
        (WalletEffect.paid normalizedMint paymentRequest melt).unfinished = some message →
        (WalletEffect.paid normalizedMint paymentRequest melt).ToldBy ⟨[], .other message⟩ := by
      intro message hmessage
      rw [WalletEffect.ToldBy, hmessage]
    have heffects : s₄.effects = s.effects ++ [.paid normalizedMint paymentRequest melt] := by
      rw [h₄.1, h₃.effects]
    have hactivity := h₄.2.trans h₃.activity
    have hshown := WalletDatabase.shown_congr hactivity
    refine .ite (fun hstate => .throw ⟨hshown, .inr ⟨_, heffects, trivial, htold _ ?_⟩⟩)
      fun hstate => ?_
    · rw [WalletEffect.unfinished, if_pos hstate]
    cases hproof : melt.paymentProof.filter (· ≠ "") with
    | none =>
      refine .throw ⟨hshown, .inr ⟨_, heffects, trivial, htold _ ?_⟩⟩
      rw [WalletEffect.unfinished, if_neg hstate, if_pos hproof]
    | some preimage =>
      have hsome : melt.paymentProof = some preimage := (Option.filter_eq_some_iff.mp hproof).1
      have hfinished :
          (WalletEffect.paid normalizedMint paymentRequest melt).unfinished = none := by
        rw [WalletEffect.unfinished, if_neg hstate, hproof, if_neg (by simp)]
      exact .pure ⟨melt, not_not.mp hstate, hsome, rfl, hfinished, heffects, hactivity⟩
  · rintro ⟨mint, unit, amount, fee, quoteId, preimage⟩ s₄
      ⟨melt, hstate, hproof, hpayment, hfinished, h₄⟩
    simp only [CashuLightningPayment.mk.injEq, and_true] at hpayment
    obtain ⟨rfl, rfl, rfl, rfl, rfl⟩ := hpayment
    have hrecorded : (WalletEffect.paid mint paymentRequest melt).recorded world =
        some (lightningEntry world paymentRequest
          ⟨mint, CurrencyUnit.sat.toString, melt.amount, melt.feePaid, melt.quoteId, preimage⟩) :=
      rfl
    exact record_moved _ h₄.1 h₄.2 trivial hrecorded hfinished rfl
      fun s₅ h₅ => ⟨melt, hstate, hproof, rfl, h₅⟩

theorem receivePaymentToken_ends {encodedToken : String} :
    Ends (receivePaymentToken crates world encodedToken) s (FailedWith s) fun payment s' =>
      payment.unit = CurrencyUnit.sat.toString ∧
        Moved world (.received payment.mintUrl encodedToken payment.amountSat) s s' := by
  refine attempt_bind_same (.refl s) fun token _ => ?_
  refine attempt_bind_same (.refl s) fun mintUrl _ => ?_
  refine .ite (fun _ => bail_ends (.refl s)) fun _ => ?_
  refine attempt_bind_same (.refl s) fun normalizedMint _ => ?_
  refine attempt_bind_same (.refl s) fun _ _ => ?_
  refine askCdk_bind (.refl s) fun _ s₁ h₁ _ => ?_
  refine .seq (perform_ends.imp (fun e _ h => (h₁.trans h).failed e) fun _ _ h => h)
    fun amount s₂ h₂ => ?_
  exact record_moved (.received normalizedMint encodedToken amount) (by rw [h₂.1, h₁.effects])
    (h₂.2.trans h₁.activity) trivial rfl rfl rfl fun s₃ h₃ => ⟨rfl, h₃⟩

theorem consolidateProofs_ends {keysetId : String} (h : SameLog s s') :
    Ends (consolidateProofs world keysetId) s' (FailedWith s) fun _ s'' => SameLog s s'' := by
  refine askCdk_bind h fun active s₁ h₁ _ => ?_
  refine .ite (fun _ => bail_ends h₁) fun _ => ?_
  refine askCdk_bind h₁ fun available s₂ h₂ _ => ?_
  refine .ite (fun _ => ?_) fun _ => .pure h₂
  exact askCdk_ends.imp (fun e _ h => (h₂.trans h).failed e) fun _ _ h => h₂.trans h.1

theorem checkPrepared_ends {keysetId : String} {prepared : PreparedSend} (h : SameLog s s') :
    Ends (checkPrepared world prepared keysetId) s' (FailedWith s) fun _ s'' =>
      SameLog s s'' ∧ ∀ proof ∈ prepared.proofs, proof.keysetId = keysetId := by
  refine .ite (fun _ => askCdk_bind h fun _ s₁ h₁ _ => bail_ends h₁) fun hpure => .pure ⟨h, ?_⟩
  simpa [proofsRequireKeysetConsolidation] using hpure

theorem sendPaymentToken_ends {requiredKeysetId : Option String} :
    Ends (sendPaymentTokenWithKeyset crates world mintUrl amountSat requiredKeysetId) s
      (FailedWith s) fun payment s' => ∃ prepared, payment = ⟨payment.mintUrl,
          CurrencyUnit.sat.toString, amountSat, prepared.sendFee, prepared.operationId,
          payment.token⟩ ∧
        Moved world (.sent payment.mintUrl amountSat requiredKeysetId prepared payment.token)
          s s' := by
  refine .ite (fun _ => bail_ends (.refl s)) fun _ => ?_
  refine parseMintUrl_bind (.refl s) fun normalizedMint _ => ?_
  refine attempt_bind_same (.refl s) fun _ _ => ?_
  refine askCdk_bind (.refl s) fun _ s₁ h₁ _ => ?_
  refine .seq (q := fun _ s' => SameLog s s') ?_ fun _ s₂ h₂ => ?_
  · cases requiredKeysetId with
    | none => exact .pure h₁
    | some keysetId => exact consolidateProofs_ends h₁
  refine askCdk_bind h₂ fun prepared s₃ h₃ _ => ?_
  have hcheck : Ends (requiredKeysetId.forM (checkPrepared world prepared)) s₃ (FailedWith s)
      fun _ s' => SameLog s s' ∧ ∀ keysetId, requiredKeysetId = some keysetId →
        ∀ proof ∈ prepared.proofs, proof.keysetId = keysetId := by
    cases requiredKeysetId with
    | none => exact .pure ⟨h₃, by simp⟩
    | some keysetId =>
      refine (checkPrepared_ends h₃).imp (fun _ _ h => h) fun _ _ h => ⟨h.1, ?_⟩
      rintro _ ⟨⟩
      exact h.2
  refine .seq hcheck fun _ s₄ h₄ => ?_
  refine .seq (perform_ends.imp (fun e _ h => (h₄.1.trans h).failed e) fun _ _ h => h)
    fun token s₅ h₅ => ?_
  refine record_moved (.sent normalizedMint amountSat requiredKeysetId prepared token)
    (by rw [h₅.1, h₄.1.effects]) (h₅.2.trans h₄.1.activity) ?_ rfl rfl rfl
    fun s₆ h₆ => ⟨prepared, rfl, h₆⟩
  cases requiredKeysetId with
  | none => trivial
  | some keysetId => exact h₄.2 keysetId rfl

theorem reclaimEntry_key (operationId : String) (entry : CashuWalletActivityEntry) :
    (reclaimEntry operationId entry).key = entry.key := by
  unfold reclaimEntry
  split <;> rfl

/-- To keep entries that have changed but for their keys stores them as they are. -/
theorem keepRefreshed_ends {c : Connection String WalletDatabase}
    {entries refreshed : List CashuWalletActivityEntry} (hshown : c.tables.shown = .ok entries)
    (hkeys : refreshed.map CashuWalletActivityEntry.key =
      entries.map CashuWalletActivityEntry.key) :
    Ends (keepRefreshed entries refreshed) c (fun _ c' => c'.tables = c.tables)
      fun _ c' => c'.tables.shown = .ok refreshed := by
  have hsorted : sortWalletActivityEntries refreshed = refreshed := by
    have hbefore := sort_shown hshown
    rw [sortWalletActivityEntries_eq_newest] at hbefore ⊢
    exact newest_eq_self_of_keys hbefore hkeys
  unfold keepRefreshed
  refine .ite (fun _ => ?_) fun hsame => .pure (not_not.mp hsame ▸ hshown)
  refine save_ends.imp (fun _ _ h => h) fun saved c' hsave => ?_
  rw [WalletDatabase.shown_eq_ok, hsave.2]
  exact ⟨saved, entriesFromJson_toJson saved, by rw [hsave.1, hsorted, hsorted]⟩

theorem markWalletActivityReclaimed_ends {operationId : String}
    {c : Connection String WalletDatabase} :
    Ends (markWalletActivityReclaimed operationId) c (fun _ c' => c'.tables = c.tables)
      fun _ c' => ∃ shown, c.tables.shown = .ok shown ∧
        c'.tables.shown = .ok (shown.map (reclaimEntry operationId)) := by
  refine .seq load_ends fun entries c₁ hload => ?_
  obtain ⟨hsame, stored, hstored, hentries⟩ := hload
  have hshown : c.tables.shown = .ok entries :=
    WalletDatabase.shown_eq_ok.mpr ⟨stored, hstored, hentries⟩
  have hkeys : (entries.map (reclaimEntry operationId)).map CashuWalletActivityEntry.key =
      entries.map CashuWalletActivityEntry.key := by
    rw [List.map_map]
    exact List.map_congr_left fun entry _ => reclaimEntry_key operationId entry
  have hkeep := keepRefreshed_ends (c := c₁) (hsame ▸ hshown) hkeys
  refine .seq (hkeep.imp (fun _ _ h => h.trans hsame) fun _ _ h => h) fun _ c₂ h => ?_
  exact .pure ⟨entries, hshown, h⟩

theorem revokePendingPayment_ends {operationId : String} :
    Ends (revokePendingPayment crates world mintUrl operationId) s (FailedWith s)
      fun amount s' => ∃ uuid shown, crates.parseUuid operationId = .ok uuid ∧
        s'.effects = s.effects ++ [.revoked uuid amount] ∧
        s.connection.tables.shown = .ok shown ∧
        s'.connection.tables.shown = .ok (shown.map (reclaimEntry operationId)) := by
  refine parseMintUrl_bind (.refl s) fun normalizedMint _ => ?_
  refine attempt_bind_same (.refl s) fun _ _ => ?_
  refine askCdk_bind (.refl s) fun _ s₁ h₁ _ => ?_
  refine attempt_bind_same h₁ fun uuid huuid => ?_
  rw [Except.mapError_eq_ok, withContext, Except.mapError_eq_ok] at huuid
  refine .seq (perform_ends.imp (fun e _ h => (h₁.trans h).failed e) fun _ _ h => h)
    fun amount s₂ h₂ => ?_
  have heffects : s₂.effects = s.effects ++ [.revoked uuid amount] := by rw [h₂.1, h₁.effects]
  have hshown : s₂.connection.tables.shown = s.connection.tables.shown :=
    WalletDatabase.shown_congr (h₂.2.trans h₁.activity)
  have hmark : Ends (onStore (mapErr (·.context "Failed to record reclaimed Cashu token")
      (markWalletActivityReclaimed operationId))) s₂ (FailedWith s) fun _ s' =>
        s'.effects = s₂.effects ∧ ∃ shown, s₂.connection.tables.shown = .ok shown ∧
          s'.connection.tables.shown = .ok (shown.map (reclaimEntry operationId)) := by
    refine .zoom (.mapErr (markWalletActivityReclaimed_ends.imp (fun e c' h => ?_)
      fun _ _ h => ⟨rfl, h⟩))
    refine ⟨(congrArg WalletDatabase.shown h).trans hshown, .inr ⟨_, heffects, trivial, ?_⟩⟩
    exact rfl
  refine .seq hmark fun _ s₃ h₃ => .pure ?_
  obtain ⟨hsame, shown, hbefore, hafter⟩ := h₃
  exact ⟨uuid, shown, huuid, hsame.trans heffects, hshown ▸ hbefore, hafter⟩

theorem importPaymentProofs_log {crates : ProofCrates} {world : ImportWorld}
    {unit proofsJson : String} {c : Connection String WalletDatabase}
    (hapart : ∀ database, (world.recovered database).activity = database.activity) :
    Ends (importPaymentProofs crates world mintUrl unit proofsJson) c
      (fun _ c' => c'.tables.activity = c.tables.activity) fun payment c' =>
        c'.tables.activity = c.tables.activity ∨
          Appended (collectEntry world payment.mintUrl payment.amountSat) c.tables c'.tables := by
  refine .attempt_bind (fun _ _ => rfl) fun _ _ => ?_
  refine .attempt_bind (fun _ _ => rfl) fun normalizedMint _ => ?_
  refine .attempt_bind (fun _ _ => rfl) fun mint _ => ?_
  refine .attempt_bind (fun _ _ => rfl) fun proofs _ => ?_
  refine .attempt_bind (fun _ _ => rfl) fun _ _ => ?_
  have hrecover : Ends (recoverIncompleteSagas world) c
      (fun _ c' => c'.tables.activity = c.tables.activity)
      fun _ c' => c'.tables.activity = c.tables.activity := by
    refine .modify_bind ?_
    cases world.recoveryError with
    | some e => exact .throw (hapart _)
    | none => exact .pure (hapart _)
  refine .seq hrecover fun _ c₁ h₁ => ?_
  refine .attempt_bind (fun _ _ => h₁) fun proofInfos _ => ?_
  refine .seq (getProofsByYs_ends.imp (fun _ _ h => (congrArg _ h.2).trans h₁) fun _ _ h => h)
    fun existing c₂ h₂ => ?_
  obtain ⟨-, -, rfl⟩ := h₂
  have hsame : c₁.tables.activity = c.tables.activity := h₁
  refine .seq (q := fun _ c' => c'.tables.activity = c.tables.activity ∨ Appended
    (collectEntry world normalizedMint _) c.tables c'.tables) ?_ fun _ c₃ h₃ => .pure h₃
  unfold importNewProofs
  refine .ite (fun _ => .pure (.inl hsame)) fun _ => ?_
  refine .seq (walletQuery_ends.imp (fun _ _ h => (congrArg _ h).trans hsame) fun _ _ h => h)
    fun _ c₃ hupdate => ?_
  have hupdated : c₃.tables.activity = c.tables.activity :=
    (congrArg WalletDatabase.activity (congrArg Prod.snd hupdate)).trans hsame
  refine .mapErr ((append_shown _).imp (fun _ _ h => h.trans hupdated) fun _ c₄ h₄ => .inr ?_)
  obtain ⟨shown, hshown, happended⟩ := h₄
  exact ⟨shown, WalletDatabase.shown_congr hupdated ▸ hshown, happended⟩

/-- A call of the service. Its own lock and that of the wallet let one call follow the other. -/
inductive ServiceCall where
  | createTopupQuote (world : CdkWorld) (mintUrl : String) (amountSat : UInt64)
  | sendLightningPayment (world : CdkWorld) (mintUrl paymentRequest : String)
  | receivePaymentToken (world : CdkWorld) (encodedToken : String)
  | sendPaymentToken (world : CdkWorld) (mintUrl : String) (amountSat : UInt64)
      (requiredKeysetId : Option String)
  | revokePendingPayment (world : CdkWorld) (mintUrl operationId : String)
  | importPaymentProofs (world : ImportWorld)
      (apart : ∀ database, (world.recovered database).activity = database.activity)
      (mintUrl unit proofsJson : String)
  | loadWalletActivity (world : ActivityWorld)

namespace ServiceCall

def run (crates : ServiceCrates) : ServiceCall → ServiceM Unit
  | .createTopupQuote world mintUrl amountSat => do
    let _ ← CashuService.createTopupQuote crates world mintUrl amountSat
  | .sendLightningPayment world mintUrl paymentRequest => do
    let _ ← CashuService.sendLightningPayment crates world mintUrl paymentRequest
  | .receivePaymentToken world encodedToken => do
    let _ ← CashuService.receivePaymentToken crates world encodedToken
  | .sendPaymentToken world mintUrl amountSat requiredKeysetId => do
    let _ ← sendPaymentTokenWithKeyset crates world mintUrl amountSat requiredKeysetId
  | .revokePendingPayment world mintUrl operationId => do
    let _ ← CashuService.revokePendingPayment crates world mintUrl operationId
  | .importPaymentProofs world _ mintUrl unit proofsJson => do
    let _ ← onStore (CashuService.importPaymentProofs crates.proofs world mintUrl unit proofsJson)
  | .loadWalletActivity world => do
    let _ ← onStore (CashuService.loadWalletActivity world)

def activityId : ServiceCall → Option String
  | .createTopupQuote world _ _ => some world.activityId
  | .sendLightningPayment world _ _ => some world.activityId
  | .receivePaymentToken world _ => some world.activityId
  | .sendPaymentToken world _ _ _ => some world.activityId
  | .revokePendingPayment _ _ _ => none
  | .importPaymentProofs world _ _ _ _ => some world.activityId
  | .loadWalletActivity _ => none

end ServiceCall

/-- The calls so far: the state they have left, and the errors they have returned. -/
structure ServiceRun where
  state : ServiceState
  errors : List WalletError

namespace ServiceRun

def start (database : WalletDatabase) : ServiceRun := ⟨⟨⟨database, []⟩, []⟩, []⟩

def exec (crates : ServiceCrates) (r : ServiceRun) (call : ServiceCall × List (Option String)) :
    ServiceRun :=
  match call.1.run crates
      { r.state with connection := { r.state.connection with answers := call.2 } } with
  | .ok _ state => ⟨state, r.errors⟩
  | .error e state => ⟨state, r.errors ++ [e]⟩

def after (crates : ServiceCrates) (r : ServiceRun)
    (calls : List (ServiceCall × List (Option String))) : ServiceRun :=
  calls.foldl (exec crates) r

end ServiceRun

def WalletEffect.IsRevocation (effect : WalletEffect) : Prop :=
  ∃ uuid amountSat, effect = .revoked uuid amountSat

/-- What was done is what the entries were recorded of, one after the other, the revocations, and
what was not recorded. Each of the last has an error of its own that tells of it. -/
def Traced (r : ServiceRun) (history : List CashuWalletActivityEntry) : Prop :=
  ∃ recorded revoked missing, recorded.Sublist r.state.effects ∧
    r.state.effects.Perm (recorded ++ (revoked ++ missing)) ∧
    List.Forall₂ WalletEffect.Describes
      (history.filter fun entry => entry.kind ≠ .channelCollect) recorded ∧
    (∀ effect ∈ revoked, effect.IsRevocation) ∧
    List.SublistForall₂ WalletEffect.ToldBy missing r.errors

/-- The activity as the history has it: its newest entries are shown, everything that was done is
traced, and reclaimed is only what was revoked. -/
structure LogKept (crates : ServiceCrates) (r : ServiceRun)
    (history : List CashuWalletActivityEntry) : Prop where
  ids : (history.map (·.id)).Nodup
  shows : r.state.connection.tables.shown =
    .ok (newest CashuWalletActivityEntry.key kMaxWalletActivityEntries history)
  traced : Traced r history
  reclaimed : ∀ entry ∈ history, entry.status = .reclaimed → ∃ operationId uuid amountSat,
    entry.operationId = some operationId ∧ crates.parseUuid operationId = .ok uuid ∧
    .revoked uuid amountSat ∈ r.state.effects
  keysets : ∀ effect ∈ r.state.effects, effect.OfKeyset

/-- A later history: entries have been added, and the old ones follow what they were. -/
def Continues (history history' : List CashuWalletActivityEntry) : Prop :=
  List.Forall₂ CashuWalletActivityEntry.Follows history (history'.take history.length)

def Advances (crates : ServiceCrates) (activityId : Option String) (r r' : ServiceRun) : Prop :=
  ∀ history, LogKept crates r history → (history.map (·.id) ++ activityId.toList).Nodup →
    ∃ history', LogKept crates r' history' ∧ Continues history history' ∧
      (history'.map (·.id)).Sublist (history.map (·.id) ++ activityId.toList)

section

variable {activityId : Option String} {history history' kept : List CashuWalletActivityEntry}
  {entry : CashuWalletActivityEntry} {effect : WalletEffect}

theorem forall₂_comp {α β γ : Type} {R : α → β → Prop} {S : β → γ → Prop} {T : α → γ → Prop}
    {as : List α} {bs : List β} {cs : List γ} (hcomp : ∀ a b c, R a b → S b c → T a c)
    (hR : List.Forall₂ R as bs) (hS : List.Forall₂ S bs cs) : List.Forall₂ T as cs := by
  induction hR generalizing cs with
  | nil =>
    cases hS
    exact .nil
  | cons hab _ ih =>
    cases hS with
    | cons hbc hrest => exact .cons (hcomp _ _ _ hab hbc) (ih hrest)

theorem sublistForall₂_append {α β : Type} {R : α → β → Prop} {as as' : List α} {bs bs' : List β}
    (h : List.SublistForall₂ R as bs) (h' : List.SublistForall₂ R as' bs') :
    List.SublistForall₂ R (as ++ as') (bs ++ bs') := by
  obtain ⟨l, hl, hsub⟩ := List.sublistForall₂_iff.mp h
  obtain ⟨l', hl', hsub'⟩ := List.sublistForall₂_iff.mp h'
  exact List.sublistForall₂_iff.mpr ⟨l ++ l', List.rel_append hl hl', hsub.append hsub'⟩

theorem follows_refl (history : List CashuWalletActivityEntry) :
    List.Forall₂ CashuWalletActivityEntry.Follows history history :=
  List.forall₂_same.mpr fun entry _ => .refl entry

theorem Continues.of_follows (h : List.Forall₂ CashuWalletActivityEntry.Follows history history') :
    Continues history history' := by
  rwa [Continues, List.take_of_length_le h.length_eq.symm.le]

theorem Continues.append (history new : List CashuWalletActivityEntry) :
    Continues history (history ++ new) := by
  rw [Continues, List.take_left]
  exact follows_refl history

theorem Continues.trans {third : List CashuWalletActivityEntry} (h : Continues history history')
    (h' : Continues history' third) : Continues history third := by
  have hlength : history.length ≤ history'.length := by
    have hsame := List.Forall₂.length_eq h
    rw [List.length_take] at hsame
    omega
  have hlater := List.forall₂_take history.length h'
  rw [List.take_take, Nat.min_eq_left hlength] at hlater
  unfold Continues at h ⊢
  exact forall₂_comp (fun _ _ _ hab hbc => hab.trans hbc) h hlater

theorem WalletEffect.Describes.follows {after : CashuWalletActivityEntry}
    (h : WalletEffect.Describes entry effect) (hfollows : entry.Follows after) :
    WalletEffect.Describes after effect := by
  obtain ⟨world, recorded, hrecorded, hbefore⟩ := h
  exact ⟨world, recorded, hrecorded, hbefore.trans hfollows⟩

theorem WalletEffect.recorded_eq_some (h : effect.recorded world = some entry) :
    entry.kind ≠ .channelCollect ∧ entry.status ≠ .reclaimed ∧ entry.id = world.activityId := by
  cases effect with
  | revoked uuid amount => cases h
  | _ =>
    obtain rfl := Option.some.inj h
    exact ⟨nofun, nofun, rfl⟩

namespace LogKept

variable {r r' : ServiceRun}

theorem answered (h : LogKept crates r history) (answers : List (Option String)) :
    LogKept crates ⟨{ r.state with connection := { r.state.connection with answers } }, r.errors⟩
      history :=
  ⟨h.ids, h.shows, h.traced, h.reclaimed, h.keysets⟩

theorem unrecorded {more told : List WalletEffect} {errors : List WalletError}
    (h : LogKept crates r history)
    (hshown : s'.connection.tables.shown = r.state.connection.tables.shown)
    (heffects : s'.effects = r.state.effects ++ (more ++ told))
    (hkeysets : ∀ effect ∈ more ++ told, effect.OfKeyset)
    (hmore : ∀ effect ∈ more, effect.IsRevocation)
    (htold : List.SublistForall₂ WalletEffect.ToldBy told errors) :
    LogKept crates ⟨s', r.errors ++ errors⟩ history where
  ids := h.ids
  shows := hshown.trans h.shows
  traced := by
    obtain ⟨recorded, revoked, missing, hsub, hperm, hdescribed, hrevoked, hmissing⟩ := h.traced
    refine ⟨recorded, revoked ++ more, missing ++ told, ?_, ?_, hdescribed,
      List.forall_mem_append.mpr ⟨hrevoked, hmore⟩, sublistForall₂_append hmissing htold⟩
    · simp only [heffects]
      exact hsub.trans (List.sublist_append_left _ _)
    · simp only [heffects]
      have hswap : (revoked ++ missing ++ (more ++ told)).Perm
          (revoked ++ more ++ (missing ++ told)) := by
        simp only [List.append_assoc]
        exact (List.perm_append_comm_assoc missing more told).append_left revoked
      have happended := hperm.append_right (more ++ told)
      rw [List.append_assoc] at happended
      exact happended.trans (hswap.append_left recorded)
  reclaimed entry hentry hstatus := by
    obtain ⟨operationId, uuid, amountSat, hid, huuid, hmem⟩ := h.reclaimed entry hentry hstatus
    exact ⟨operationId, uuid, amountSat, hid, huuid, heffects ▸ List.mem_append_left _ hmem⟩
  keysets := by
    simp only [heffects]
    exact List.forall_mem_append.mpr ⟨h.keysets, hkeysets⟩

theorem appended (h : LogKept crates r history)
    (hids : ((history ++ [entry]).map (·.id)).Nodup)
    (happended : Appended entry r.state.connection.tables s'.connection.tables) :
    s'.connection.tables.shown = .ok (newest CashuWalletActivityEntry.key
      kMaxWalletActivityEntries (history ++ [entry])) := by
  obtain ⟨shown, hshown, hafter⟩ := happended
  obtain rfl := Except.ok.inj (h.shows.symm.trans hshown)
  rw [hafter, sortWalletActivityEntries_eq_newest,
    newest_concat (CashuWalletActivityEntry.key_nodup hids)]

theorem followed (h : LogKept crates r history)
    (hfollows : List.Forall₂ CashuWalletActivityEntry.Follows history history')
    (hshows : r'.state.connection.tables.shown = .ok (newest CashuWalletActivityEntry.key
      kMaxWalletActivityEntries history'))
    (hsame : r'.state.effects = r.state.effects) (herrors : r'.errors = r.errors)
    (hreclaimed : ∀ entry ∈ history', entry.status = .reclaimed → ∃ operationId uuid amountSat,
      entry.operationId = some operationId ∧ crates.parseUuid operationId = .ok uuid ∧
      .revoked uuid amountSat ∈ r'.state.effects) : LogKept crates r' history' where
  ids := by
    have hids : history'.map (·.id) = history.map (·.id) :=
      map_key_eq (fun _ _ => CashuWalletActivityEntry.Follows.id) hfollows
    exact hids ▸ h.ids
  shows := hshows
  traced := by
    obtain ⟨recorded, revoked, missing, hsub, hperm, hdescribed, hrest⟩ := h.traced
    rw [Traced, hsame, herrors]
    refine ⟨recorded, revoked, missing, hsub, hperm, ?_, hrest⟩
    have hflipped : List.Forall₂ (fun after before => before.Follows after) history' history :=
      hfollows.flip
    have hfiltered : List.Forall₂ (fun after before => before.Follows after)
        (history'.filter fun entry => entry.kind ≠ .channelCollect)
        (history.filter fun entry => entry.kind ≠ .channelCollect) :=
      List.rel_filter (fun a b hab => by simp [hab.kind]) hflipped
    exact forall₂_comp (fun _ _ _ hfollows hdescribes => hdescribes.follows hfollows) hfiltered
      hdescribed
  reclaimed := hreclaimed
  keysets := hsame ▸ h.keysets

end LogKept

namespace Advances

variable {errors : List WalletError}

theorem unrecorded {told : List WalletEffect} {added : List WalletError}
    (hshown : s'.connection.tables.shown = s.connection.tables.shown)
    (heffects : s'.effects = s.effects ++ told) (hkeysets : ∀ effect ∈ told, effect.OfKeyset)
    (htold : List.SublistForall₂ WalletEffect.ToldBy told added) :
    Advances crates activityId ⟨s, errors⟩ ⟨s', errors ++ added⟩ := fun history hkept _ =>
  ⟨history,
    @LogKept.unrecorded _ _ _ _ [] told added hkept hshown heffects hkeysets (by simp) htold,
    .of_follows (follows_refl history), List.sublist_append_left _ _⟩

theorem failed {e : WalletError} (h : FailedWith s e s') :
    Advances crates activityId ⟨s, errors⟩ ⟨s', errors ++ [e]⟩ := by
  obtain ⟨hshown, hsame | ⟨effect, heffects, hkeyset, htold⟩⟩ := h
  · exact unrecorded hshown (hsame.trans (List.append_nil _).symm) (by simp) .nil
  · exact unrecorded hshown heffects (by simpa using hkeyset) (.cons htold .nil)

theorem quiet (hshown : s'.connection.tables.shown = s.connection.tables.shown)
    (heffects : s'.effects = s.effects) : Advances crates activityId ⟨s, errors⟩ ⟨s', errors⟩ := by
  have hnothing : Advances crates activityId ⟨s, errors⟩ ⟨s', errors ++ []⟩ :=
    unrecorded hshown (heffects.trans (List.append_nil _).symm) (by simp) .nil
  rwa [List.append_nil] at hnothing

theorem moved (hid : activityId = some world.activityId) (h : Moved world effect s s') :
    Advances crates activityId ⟨s, errors⟩ ⟨s', errors⟩ := by
  intro history hkept hids
  obtain ⟨entry, hrecorded, happended⟩ := h.recorded
  obtain ⟨hkind, hstatus, hentry⟩ := WalletEffect.recorded_eq_some hrecorded
  have hmap : (history ++ [entry]).map (·.id) = history.map (·.id) ++ activityId.toList := by
    simp [hid, hentry]
  refine ⟨history ++ [entry], ?_, .append history [entry], hmap ▸ List.Sublist.refl _⟩
  obtain ⟨recorded, revoked, missing, hsub, hperm, hdescribed, hrest⟩ := hkept.traced
  exact
    { ids := hmap ▸ hids
      shows := hkept.appended (hmap ▸ hids) happended
      traced := by
        refine ⟨recorded ++ [effect], revoked, missing, ?_, ?_, ?_, hrest⟩
        · simp only [h.effects]
          exact hsub.append_right _
        · simp only [h.effects, List.append_assoc, List.singleton_append]
          exact (List.perm_append_singleton effect _).trans
            ((hperm.cons effect).trans List.perm_middle.symm)
        · rw [List.filter_append]
          refine List.rel_append hdescribed ?_
          simpa [hkind] using ⟨world, entry, hrecorded, .refl entry⟩
      reclaimed := by
        intro later hlater hreclaimed
        rcases List.mem_append.mp hlater with hold | hnew
        · obtain ⟨operationId, uuid, amountSat, hoperation, huuid, hmem⟩ :=
            hkept.reclaimed later hold hreclaimed
          exact ⟨operationId, uuid, amountSat, hoperation, huuid,
            h.effects ▸ List.mem_append_left _ hmem⟩
        · exact absurd (List.mem_singleton.mp hnew ▸ hreclaimed) hstatus
      keysets := by
        simp only [h.effects]
        exact List.forall_mem_append.mpr ⟨hkept.keysets, by simpa using h.keyset⟩ }

theorem imported {world : ImportWorld} (hid : activityId = some world.activityId)
    (heffects : s'.effects = s.effects)
    (happended : Appended (collectEntry world mintUrl amountSat) s.connection.tables
      s'.connection.tables) : Advances crates activityId ⟨s, errors⟩ ⟨s', errors⟩ := by
  intro history hkept hids
  have hmap : (history ++ [collectEntry world mintUrl amountSat]).map (·.id) =
      history.map (·.id) ++ activityId.toList := by
    simp [hid, collectEntry]
  refine ⟨_, ?_, .append history [collectEntry world mintUrl amountSat],
    hmap ▸ List.Sublist.refl _⟩
  exact
    { ids := hmap ▸ hids
      shows := hkept.appended (hmap ▸ hids) happended
      traced := by
        rw [Traced, List.filter_append]
        simpa [Traced, collectEntry, heffects] using hkept.traced
      reclaimed := by
        intro later hlater hreclaimed
        rcases List.mem_append.mp hlater with hold | hnew
        · exact heffects ▸ hkept.reclaimed later hold hreclaimed
        · rw [List.mem_singleton.mp hnew] at hreclaimed
          cases hreclaimed
      keysets := heffects ▸ hkept.keysets }

end Advances

theorem refreshEntry_follows {world : ActivityWorld} {maps : ActivityMaps}
    {entry' : CashuWalletActivityEntry} (h : refreshEntry world maps entry = .ok entry') :
    entry.Follows entry' ∧ (entry'.status = .reclaimed → entry.status = .reclaimed) := by
  obtain ⟨hentry, hstatus⟩ := refreshEntry_eq_ok h
  have hmay : MayBecome entry.kind entry.status entry'.status ∧
      (entry'.status = .reclaimed → entry.status = .reclaimed) := by
    unfold MayBecome
    cases hkind : entry.kind with
    | topUp =>
      simp only [nextStatus, hkind, Except.ok.injEq] at hstatus
      rw [← hstatus]
      unfold topUpStatus
      grind
    | tokenSend =>
      simp only [nextStatus, hkind] at hstatus
      split at hstatus
      · rename_i hpending
        unfold tokenSendStatus at hstatus
        split at hstatus
        · grind
        · split at hstatus
          · grind
          · split at hstatus
            · grind
            · simp only [Except.bind_eq_ok, Except.pure_eq_ok] at hstatus
              obtain ⟨saga, -, hsaga⟩ := hstatus
              cases saga <;> grind
      · grind
    | _ =>
      simp only [nextStatus, hkind, Except.ok.injEq] at hstatus
      grind
  exact ⟨⟨hentry, hmay.1⟩, hmay.2⟩

theorem Advances.loaded {world : ActivityWorld} {maps : ActivityMaps} {errors : List WalletError}
    {entries refreshed : List CashuWalletActivityEntry} (heffects : s'.effects = s.effects)
    (hbefore : s.connection.tables.shown = .ok entries)
    (hafter : s'.connection.tables.shown = .ok refreshed)
    (hrefreshed : List.Forall₂ (fun entry entry' => refreshEntry world maps entry = .ok entry')
      entries refreshed) : Advances crates activityId ⟨s, errors⟩ ⟨s', errors⟩ := by
  intro history hkept _
  obtain rfl := Except.ok.inj (hkept.shows.symm.trans hbefore)
  obtain ⟨history', hfollows, hnewest⟩ := newest_updated
    (R := fun entry entry' => entry.Follows entry' ∧
      (entry'.status = .reclaimed → entry.status = .reclaimed))
    (fun entry => ⟨.refl entry, fun h => h⟩) (fun _ _ h => h.1.key)
    (CashuWalletActivityEntry.key_nodup hkept.ids)
    (hrefreshed.imp fun _ _ => refreshEntry_follows)
  have hpointwise : List.Forall₂ CashuWalletActivityEntry.Follows history history' :=
    hfollows.imp fun _ _ h => h.1
  have hsame : history'.map (·.id) = history.map (·.id) :=
    map_key_eq (fun _ _ => CashuWalletActivityEntry.Follows.id) hpointwise
  refine ⟨history', hkept.followed hpointwise (hnewest ▸ hafter) heffects rfl ?_,
    .of_follows hpointwise, ?_⟩
  · intro entry' hentry' hreclaimed
    obtain ⟨k, hk, rfl⟩ := List.getElem_of_mem hentry'
    have hk' : k < history.length := hfollows.length_eq ▸ hk
    obtain ⟨hentry, hstatus⟩ := hfollows.get hk' hk
    obtain ⟨operationId, uuid, amountSat, hoperation, hrest⟩ :=
      hkept.reclaimed history[k] (List.getElem_mem hk') (hstatus hreclaimed)
    exact ⟨operationId, uuid, amountSat, hentry.operationId.trans hoperation, heffects ▸ hrest⟩
  · rw [hsame]
    exact List.sublist_append_left _ _

theorem reclaimEntry_follows (operationId : String) (entry : CashuWalletActivityEntry) :
    entry.Follows (reclaimEntry operationId entry) := by
  unfold reclaimEntry
  split
  · rename_i h
    refine ⟨rfl, .inr ?_⟩
    rw [h.1]
    exact .inl rfl
  · exact .refl entry

theorem reclaimed_of_reclaimEntry {operationId : String}
    (h : (reclaimEntry operationId entry).status = .reclaimed) :
    entry.status = .reclaimed ∨
      (reclaimEntry operationId entry).operationId = some operationId := by
  by_cases hmatches : entry.kind = .tokenSend ∧ entry.operationId = some operationId ∧
      entry.status ≠ .reclaimed
  · rw [reclaimEntry, if_pos hmatches]
    exact .inr hmatches.2.1
  · rw [reclaimEntry, if_neg hmatches] at h
    exact .inl h

theorem Advances.revoked {operationId uuid : String} {shown : List CashuWalletActivityEntry}
    {errors : List WalletError} (huuid : crates.parseUuid operationId = .ok uuid)
    (heffects : s'.effects = s.effects ++ [.revoked uuid amountSat])
    (hbefore : s.connection.tables.shown = .ok shown)
    (hafter : s'.connection.tables.shown = .ok (shown.map (reclaimEntry operationId))) :
    Advances crates activityId ⟨s, errors⟩ ⟨s', errors⟩ := by
  intro history hkept _
  obtain rfl := Except.ok.inj (hkept.shows.symm.trans hbefore)
  have hfollows : List.Forall₂ CashuWalletActivityEntry.Follows history
      (history.map (reclaimEntry operationId)) := by
    rw [List.forall₂_map_right_iff, List.forall₂_same]
    exact fun entry _ => reclaimEntry_follows operationId entry
  have hids : (history.map (reclaimEntry operationId)).map (·.id) = history.map (·.id) :=
    map_key_eq (fun _ _ => CashuWalletActivityEntry.Follows.id) hfollows
  -- The revocation is done first, and the entries are marked after it.
  have hrevoked : LogKept crates
      ⟨⟨s.connection, s.effects ++ [.revoked uuid amountSat]⟩, errors ++ []⟩ history :=
    @LogKept.unrecorded _ _ _ _ [.revoked uuid amountSat] [] [] hkept rfl rfl
      (by simp [WalletEffect.OfKeyset]) (by simp [WalletEffect.IsRevocation]) .nil
  refine ⟨_, hrevoked.followed hfollows ?_ heffects (List.append_nil _).symm ?_,
    .of_follows hfollows, ?_⟩
  · rw [hafter, newest_map fun entry _ => reclaimEntry_key operationId entry]
  · intro entry' hentry' hreclaimed
    obtain ⟨entry, hentry, rfl⟩ := List.mem_map.mp hentry'
    simp only [heffects]
    rcases reclaimed_of_reclaimEntry hreclaimed with hold | hnew
    · obtain ⟨before, uuid', amountSat', hoperation, hparsed, hmem⟩ :=
        hkept.reclaimed entry hentry hold
      exact ⟨before, uuid', amountSat',
        (reclaimEntry_follows operationId entry).operationId.trans hoperation, hparsed,
        List.mem_append_left _ hmem⟩
    · exact ⟨operationId, uuid, amountSat, hnew, huuid, by simp⟩
  · rw [hids]
    exact List.sublist_append_left _ _

theorem ServiceCall.run_advances (crates : ServiceCrates) (call : ServiceCall) (s : ServiceState)
    (errors : List WalletError) :
    Ends (call.run crates) s (fun e s' => Advances crates call.activityId ⟨s, errors⟩
      ⟨s', errors ++ [e]⟩)
      fun _ s' => Advances crates call.activityId ⟨s, errors⟩ ⟨s', errors⟩ := by
  cases call with
  | createTopupQuote world mintUrl amountSat =>
    refine .seq (createTopupQuote_ends.imp (fun _ _ h => .failed h) fun _ _ h => h) ?_
    rintro _ s' ⟨quote, -, hmoved⟩
    exact .pure (.moved rfl hmoved)
  | sendLightningPayment world mintUrl paymentRequest =>
    refine .seq (sendLightningPayment_ends.imp (fun _ _ h => .failed h) fun _ _ h => h) ?_
    rintro _ s' ⟨melt, -, -, -, hmoved⟩
    exact .pure (.moved rfl hmoved)
  | receivePaymentToken world encodedToken =>
    refine .seq (receivePaymentToken_ends.imp (fun _ _ h => .failed h) fun _ _ h => h) ?_
    rintro _ s' ⟨-, hmoved⟩
    exact .pure (.moved rfl hmoved)
  | sendPaymentToken world mintUrl amountSat requiredKeysetId =>
    refine .seq (sendPaymentToken_ends.imp (fun _ _ h => .failed h) fun _ _ h => h) ?_
    rintro _ s' ⟨prepared, -, hmoved⟩
    exact .pure (.moved rfl hmoved)
  | revokePendingPayment world mintUrl operationId =>
    refine .seq (revokePendingPayment_ends.imp (fun _ _ h => .failed h) fun _ _ h => h) ?_
    rintro _ s' ⟨uuid, shown, huuid, heffects, hbefore, hafter⟩
    exact .pure (.revoked huuid heffects hbefore hafter)
  | importPaymentProofs world apart mintUrl unit proofsJson =>
    refine .seq ((onStore_ends (importPaymentProofs_log apart)).imp
      (fun e _ h => .failed (SameLog.failed ⟨h.1, h.2⟩ e)) fun _ _ h => h) ?_
    rintro payment s' ⟨heffects, hsame | happended⟩
    · exact .pure (.quiet (WalletDatabase.shown_congr hsame) heffects)
    · exact .pure (.imported rfl heffects happended)
  | loadWalletActivity world =>
    refine .seq ((onStore_ends loadWalletActivity_ends).imp
      (fun _ _ h => .failed ⟨h.2, .inl h.1⟩) fun _ _ h => h) ?_
    rintro refreshed s' ⟨heffects, entries, hbefore, hafter, hrest⟩
    refine .pure ?_
    rcases hrest with ⟨rfl, rfl⟩ | ⟨maps, -, hrefreshed⟩
    · exact .quiet (hafter.trans hbefore.symm) heffects
    · exact .loaded heffects hbefore hafter hrefreshed

variable {r : ServiceRun}

theorem ServiceRun.exec_advances (r : ServiceRun) (call : ServiceCall × List (Option String)) :
    Advances crates call.1.activityId r (r.exec crates call) := by
  intro history hkept hids
  have hends := call.1.run_advances crates
    { r.state with connection := { r.state.connection with answers := call.2 } } r.errors
  unfold exec
  cases hrun : call.1.run crates
    { r.state with connection := { r.state.connection with answers := call.2 } } with
  | ok _ state => exact hends.of_ok hrun history (hkept.answered call.2) hids
  | error e state => exact hends.of_error hrun history (hkept.answered call.2) hids

/-- Steps that each advance the history, with distinct ids for what they record. -/
theorem kept_along {σ β : Type} {exec : σ → β → σ} {view : σ → ServiceRun}
    {idOf : β → Option String} {start : σ}
    (hstep : ∀ state step, Advances crates (idOf step) (view state) (view (exec state step)))
    (hkept : LogKept crates (view start) history) (steps : List β)
    (hids : (history.map (·.id) ++ steps.filterMap idOf).Nodup) :
    ∃ history', LogKept crates (view (steps.foldl exec start)) history' ∧
      Continues history history' ∧
      (history'.map (·.id)).Sublist (history.map (·.id) ++ steps.filterMap idOf) := by
  induction steps generalizing start history with
  | nil =>
    exact ⟨history, hkept, .of_follows (follows_refl history), List.sublist_append_left _ _⟩
  | cons step steps ih =>
    have hsplit : history.map (·.id) ++ (step :: steps).filterMap idOf =
        (history.map (·.id) ++ (idOf step).toList) ++ steps.filterMap idOf := by
      cases hid : idOf step <;> simp [hid]
    rw [hsplit] at hids ⊢
    obtain ⟨next, hnext, hcontinues, hsub⟩ := hstep start step history hkept hids.of_append_left
    obtain ⟨last, hlast, hcontinues', hsub'⟩ := ih hnext (hids.sublist (hsub.append_right _))
    exact ⟨last, hlast, hcontinues.trans hcontinues', hsub'.trans (hsub.append_right _)⟩

theorem kept_split {σ β : Type} {exec : σ → β → σ} {view : σ → ServiceRun}
    {idOf : β → Option String} {start : σ}
    (hstep : ∀ state step, Advances crates (idOf step) (view state) (view (exec state step)))
    (hkept : LogKept crates (view start) []) (earlier later : List β)
    (hids : ((earlier ++ later).filterMap idOf).Nodup) :
    ∃ history history', LogKept crates (view (earlier.foldl exec start)) history ∧
      LogKept crates (view ((earlier ++ later).foldl exec start)) history' ∧
      Continues history history' := by
  rw [List.filterMap_append] at hids
  obtain ⟨history, hfirst, -, hsub⟩ := kept_along hstep hkept earlier hids.of_append_left
  rw [List.map_nil, List.nil_append] at hsub
  obtain ⟨history', hlast, hcontinues, -⟩ :=
    kept_along hstep hfirst later (hids.sublist (hsub.append_right _))
  refine ⟨history, history', hfirst, ?_, hcontinues⟩
  rwa [List.foldl_append]

end

theorem LogKept.start (crates : ServiceCrates) {database : WalletDatabase}
    (hempty : database.activity = none) : LogKept crates (.start database) [] where
  ids := List.nodup_nil
  shows := WalletDatabase.shown_eq_ok.mpr
    ⟨[], by simp [WalletDatabase.storedEntries, ServiceRun.start, hempty], by
      rw [sortWalletActivityEntries_eq_newest]⟩
  traced := ⟨[], [], [], List.Sublist.refl _, List.Perm.refl _, .nil, by simp, .nil⟩
  reclaimed := by simp
  keysets := by simp [ServiceRun.start]

/-- The activity tells the truth about all calls so far, and goes on from there. -/
theorem activity_tells_truth (crates : ServiceCrates) {database : WalletDatabase}
    (hempty : database.activity = none)
    (earlier later : List (ServiceCall × List (Option String)))
    (hids : ((earlier ++ later).filterMap fun call => call.1.activityId).Nodup) :
    ∃ history history',
      LogKept crates ((ServiceRun.start database).after crates earlier) history ∧
      LogKept crates ((ServiceRun.start database).after crates (earlier ++ later)) history' ∧
      Continues history history' :=
  kept_split ServiceRun.exec_advances (LogKept.start crates hempty) earlier later hids

def CdkAnswer.quiet {α : Type} (a : α) : CdkAnswer α := ⟨⟨id, fun _ => rfl⟩, .ok a⟩

def sampleCdkWorld (activityId : String) : CdkWorld where
  ensureSatWallet := .ok ()
  recoverIncompleteSagas := .quiet ()
  mintUnissuedQuotes := .quiet ()
  mintQuote := .quiet ⟨"quote", "lnbc80n1sample", 1800003600⟩
  meltQuote := .quiet "melt"
  prepareMelt := .quiet ()
  confirmMelt := .quiet ⟨"melt", .paid, 8, 1, some "preimage"⟩
  receive := .quiet 8
  fetchActiveKeyset := .quiet sampleProof.keysetId
  unspentProofs := .quiet [sampleProof]
  swap := .quiet ()
  prepareSend := .quiet ⟨"operation", [sampleProof], 0⟩
  cancelSend := .quiet ()
  confirmSend := .quiet "cashuBsent"
  revokeSend := .quiet 8
  activityId := activityId
  activityNowUnix := 1800000000

def sampleServiceCrates : ServiceCrates where
  proofs := sampleProofCrates
  parseUuid := .ok
  parseToken _ := .ok ⟨.ok "https://source.example", some .sat⟩

def sampleServiceCalls : List (ServiceCall × List (Option String)) :=
  [(.createTopupQuote (sampleCdkWorld "1800000000-00000000") "https://source.example" 8,
      [some "database is locked"]),
    (.receivePaymentToken (sampleCdkWorld "1800000000-00000001") "cashuBtoken", []),
    (.sendPaymentToken (sampleCdkWorld "1800000000-00000002") "https://source.example" 8
      (some sampleProof.keysetId), [])]

def sampleRevocation : ServiceCall × List (Option String) :=
  (.revokePendingPayment (sampleCdkWorld "1800000000-00000003") "https://source.example"
    "operation", [])

theorem activity_tells_truth_sample :
    ∃ history history',
      LogKept sampleServiceCrates
        ((ServiceRun.start .fresh).after sampleServiceCrates sampleServiceCalls) history ∧
      LogKept sampleServiceCrates ((ServiceRun.start .fresh).after sampleServiceCrates
        (sampleServiceCalls ++ [sampleRevocation])) history' ∧
      Continues history history' :=
  activity_tells_truth sampleServiceCrates rfl _ _ (by decide)

end CashuService

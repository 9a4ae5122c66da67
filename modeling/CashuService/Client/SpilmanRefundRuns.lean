import CashuService.Client.SpilmanRefund
import CashuService.Client.SpilmanSessions
set_option autoImplicit false

namespace CashuService

variable {α K Q C S P : Type} {crates : RefundCrates K Q C S}
  {codec : StoreFileCodec ClientChannelFunding P} {world : RefundWorld} {dataDir : Path}
  {channelId mintUrl unit : String} {s s' s'' : RefundState} {proofs : List Proof}

def afterSession {F : Type} (codec : StoreFileCodec F P)
    (steps : List (StoreChange F P × WriteOutcome)) (file : Option String) :
    Option String :=
  (ClientSession.mk () steps).alone codec file

def ClosedOnDisk (codec : StoreFileCodec ClientChannelFunding P) (channelId : String)
    (file : Option String) : Prop :=
  ∃ storage, loadWithLock codec (.ok file) = .ok storage ∧ channelId ∈ storage.state.closed

/-- The mint and the unit of a channel whose funding is in the file. -/
def FundingOnDisk (crates : RefundCrates K Q C S)
    (codec : StoreFileCodec ClientChannelFunding P) (channelId : String) (file : Option String)
    (mintUrl unit : String) : Prop :=
  ∃ storage funding params, loadWithLock codec (.ok file) = .ok storage ∧
    storage.getFunding channelId = some funding ∧
    crates.parseJson funding.paramsJson = .ok params ∧ mintUrl = funding.mintUrl ∧
    unit = ((params.get? "unit").bind Json.asStr?).getD "sat"

def Collected (crates : RefundCrates K Q C S) (world : RefundWorld) (mintUrl unit : String)
    (proofs : List Proof) (before after : WalletDatabase) (amountSat : UInt64) : Prop :=
  proofs = [] ∧ after = before ∧ amountSat = 0 ∨
    ∃ proofsJson proofInfos payment, crates.encodeProofs proofs = .ok proofsJson ∧
      ImportAccepted crates.proofs mintUrl unit proofsJson payment.mintUrl proofInfos ∧
      Imports world.importing (world.importing.recovered before) after proofInfos payment ∧
      amountSat = payment.amountSat

/-- A refund: the mint calls the funding spent and restores the proofs, the wallet has collected
all of them, and then the channel is closed. -/
structure Refunds (crates : RefundCrates K Q C S)
    (codec : StoreFileCodec ClientChannelFunding P) (world : RefundWorld)
    (channelId mintUrl unit : String) (proofs : List Proof) (amountSat : UInt64)
    (s s' : RefundState) : Prop where
  opened : ¬ClosedOnDisk codec channelId s.file
  spent : world.fundingState = .ok .spent
  restored : world.restoredProofs = .ok proofs
  collected : Collected crates world mintUrl unit proofs s.connection.tables
    s'.connection.tables amountSat
  file : s'.file = afterSession codec [(.setClosed channelId, world.write)] s.file

def incompleteResult (channelId mintUrl unit : String) :
    StreamingRouteRestoreCashuSpilmanRefundResult :=
  { completeResult channelId mintUrl unit 0 0 0 with complete := false }

def RefundReturns (crates : RefundCrates K Q C S)
    (codec : StoreFileCodec ClientChannelFunding P) (world : RefundWorld) (channelId : String)
    (s : RefundState) (result : StreamingRouteRestoreCashuSpilmanRefundResult)
    (s' : RefundState) : Prop :=
  ∃ mintUrl unit, FundingOnDisk crates codec channelId s.file mintUrl unit ∧
    ((result = incompleteResult channelId mintUrl unit ∧ s' = s ∧
      ¬ClosedOnDisk codec channelId s.file ∧
      ∃ state, world.fundingState = .ok state ∧ state ≠ .spent) ∨
    (result = completeResult channelId mintUrl unit 0 0 0 ∧ s' = s ∧
      ClosedOnDisk codec channelId s.file) ∨
    ∃ proofs amountSat, result = completeResult channelId mintUrl unit
        (proofs.foldl (fun sum proof => sum + proof.amount) 0) amountSat proofs.length ∧
      ClosedOnDisk codec channelId s'.file ∧
      Refunds crates codec world channelId mintUrl unit proofs amountSat s s')

/-- A call that fails leaves the channel as it is, unless its refund is in the wallet. For a closed
channel it leaves everything as it is. -/
def RefundFails (crates : RefundCrates K Q C S)
    (codec : StoreFileCodec ClientChannelFunding P) (world : RefundWorld) (channelId : String)
    (s s' : RefundState) : Prop :=
  (s'.file = s.file ∧ (ClosedOnDisk codec channelId s.file → s' = s)) ∨
    ∃ mintUrl unit proofs amountSat, FundingOnDisk crates codec channelId s.file mintUrl unit ∧
      Refunds crates codec world channelId mintUrl unit proofs amountSat s s'

theorem openRefundChannel_ends {funding : ClientChannelFunding} :
    Ends (openRefundChannel crates world funding) s (fun _ s' => s' = s) fun _ s' => s' = s := by
  refine orMessage_bind (fun _ => rfl) fun _ _ => orChain_bind (fun _ => rfl) fun secret _ => ?_
  split
  · refine orChain_bind (fun _ => rfl) fun _ _ => orChain_bind (fun _ => rfl) fun _ _ => ?_
    refine orChain_bind (fun _ => rfl) fun _ _ => orMessage_bind (fun _ => rfl) fun _ _ => ?_
    exact .ite (fun _ => .throw rfl) fun _ => .attempt (fun _ _ => rfl) fun _ _ => rfl
  · exact .throw rfl

theorem importRefund_ends {proofsJson : String} (hquery : crates.proofs.Faithful) :
    Ends (importRefund crates world mintUrl unit proofsJson) s (fun _ s' => s'.file = s.file)
      fun payment s' => s'.file = s.file ∧ ∃ proofInfos,
        ImportAccepted crates.proofs mintUrl unit proofsJson payment.mintUrl proofInfos ∧
        Imports world.importing (world.importing.recovered s.connection.tables)
          s'.connection.tables proofInfos payment :=
  .attempt_bind (fun _ _ => rfl) fun _ _ =>
    .zoom ((importPaymentProofs_ends hquery).imp (fun _ _ _ => rfl) fun _ _ h => ⟨rfl, h⟩)

theorem closeChannel_ends {storage : FileSpilmanClientStorage ClientChannelFunding P}
    (hcodec : codec.Faithful) (hload : loadWithLock codec (.ok s.file) = .ok storage) :
    Ends (closeChannel codec world storage channelId) s
      (fun _ s' => s'.connection = s.connection ∧
        s'.file = afterSession codec [(.setClosed channelId, world.write)] s.file)
      fun _ s' => s'.connection = s.connection ∧
        s'.file = afterSession codec [(.setClosed channelId, world.write)] s.file ∧
        ClosedOnDisk codec channelId s'.file := by
  have hfile : (StoreSession.change codec ⟨storage, s.file⟩
      (.setClosed channelId, world.write)).file =
      afterSession codec [(.setClosed channelId, world.write)] s.file :=
    (ClientSession.alone_loaded [(.setClosed channelId, world.write)] hload).symm
  obtain ⟨hversion, hclean⟩ := loadWithLock_eq_ok hload
  have hstart : StoreSession.Durable codec ⟨storage, s.file⟩ := by
    refine ⟨hversion, fun _ => ?_⟩
    rw [hload, ← hclean]
  have hclosed : (StoreSession.change codec ⟨storage, s.file⟩
      (.setClosed channelId, world.write)).storage.ensureOk = .ok () →
      ClosedOnDisk codec channelId (StoreSession.change codec ⟨storage, s.file⟩
        (.setClosed channelId, world.write)).file := by
    intro hok
    refine ⟨_, (hstart.change hcodec _).clean (FileSpilmanClientStorage.ensureOk_eq_ok.mp hok), ?_⟩
    rw [StoreSession.change_state]
    exact Std.ExtTreeSet.mem_insert_self
  refine .get_bind (.modify_bind (.attempt (fun _ _ => ⟨rfl, hfile⟩) fun _ hok => ?_))
  exact ⟨rfl, hfile, hclosed (Except.mapError_eq_ok.mp hok)⟩

theorem collectRefund_ends (hcrates : crates.Faithful) :
    Ends (collectRefund crates world mintUrl unit proofs) s (fun _ s' => s'.file = s.file)
      fun amountSat s' => s'.file = s.file ∧
        Collected crates world mintUrl unit proofs s.connection.tables s'.connection.tables
          amountSat := by
  refine .ite (fun hnone => .pure ⟨rfl, .inl ⟨hnone, rfl, rfl⟩⟩) fun _ => ?_
  refine orChain_bind (fun _ => rfl) fun proofsJson hjson => ?_
  refine .seq (importRefund_ends hcrates.query) ?_
  rintro payment s₁ ⟨hfile, proofInfos, haccepted, himports⟩
  exact .pure ⟨hfile, .inr ⟨proofsJson, proofInfos, payment, hjson, haccepted, himports, rfl⟩⟩

theorem RefundFails.same : RefundFails crates codec world channelId s s :=
  .inl ⟨rfl, fun _ => rfl⟩

theorem restoreOpenRefund_ends {storage : FileSpilmanClientStorage ClientChannelFunding P}
    {funding : ClientChannelFunding} (hcrates : crates.Faithful) (hcodec : codec.Faithful)
    (hload : loadWithLock codec (.ok s.file) = .ok storage)
    (hfunding : FundingOnDisk crates codec channelId s.file funding.mintUrl unit)
    (hopen : channelId ∉ storage.state.closed) :
    Ends (restoreOpenRefund crates codec world storage channelId unit funding) s
      (fun _ s' => RefundFails crates codec world channelId s s')
      (RefundReturns crates codec world channelId s) := by
  have hnot : ¬ClosedOnDisk codec channelId s.file := by
    rintro ⟨other, hother, hclosed⟩
    obtain rfl := Except.ok.inj (hload.symm.trans hother)
    exact hopen hclosed
  refine .seq (openRefundChannel_ends.imp (fun _ _ h => h ▸ .same) fun _ _ h => h)
    fun _ s₀ hsame => ?_
  rw [hsame]
  refine orMessage_bind (fun _ => .same) fun _ _ => orMessage_bind (fun _ => .same) fun _ _ => ?_
  refine orChain_bind (fun _ => .same) fun fundingState hstate => ?_
  refine .ite (fun hunspent => .pure ?_) fun hspent => ?_
  · exact ⟨_, _, hfunding, .inl ⟨rfl, rfl, hnot, _, hstate, hunspent⟩⟩
  obtain rfl : fundingState = .spent := not_not.mp hspent
  refine orChain_bind (fun _ => .same) fun proofs hproofs => ?_
  refine .seq ((collectRefund_ends hcrates).imp
    (fun _ _ h => .inl ⟨h, fun hclosed => absurd hclosed hnot⟩) fun _ _ h => h) ?_
  rintro amountSat s₁ ⟨hfile, hcollected⟩
  have hload₁ : loadWithLock codec (.ok s₁.file) = .ok storage := hfile ▸ hload
  have hrefunds : ∀ s₂, s₂.connection = s₁.connection →
      s₂.file = afterSession codec [(.setClosed channelId, world.write)] s₁.file →
      Refunds crates codec world channelId funding.mintUrl unit proofs amountSat s s₂ := by
    intro s₂ hconnection hfile₂
    exact
      { opened := hnot
        spent := hstate
        restored := hproofs
        collected := hconnection ▸ hcollected
        file := hfile ▸ hfile₂ }
  refine .seq ((closeChannel_ends hcodec hload₁).imp (fun _ s₂ h => .inr ?_) fun _ _ h => h)
    fun _ s₂ h => .pure ⟨_, _, hfunding, .inr (.inr ⟨proofs, amountSat, rfl, h.2.2, ?_⟩)⟩
  · exact ⟨_, _, proofs, amountSat, hfunding, hrefunds s₂ h.1 h.2⟩
  · exact hrefunds s₂ h.1 h.2.1

theorem restoreWithLock_ends {lock : SharedSpilmanClientStoreLock} (hcrates : crates.Faithful)
    (hcodec : codec.Faithful) :
    Ends (restoreStreamingRouteCashuSpilmanRefundWithLock crates codec dataDir channelId lock world)
      s (fun _ s' => RefundFails crates codec world (trim channelId) s s')
      (RefundReturns crates codec world (trim channelId) s) := by
  refine .ite (fun _ => .throw .same) fun _ => orMessage_bind (fun _ => .same) fun _ _ => ?_
  refine .seq (q := fun storage s₁ => s₁ = s ∧ loadWithLock codec (.ok s.file) = .ok storage) ?_ ?_
  · refine .get_bind (.attempt (fun _ _ => .same) fun storage hload => ⟨rfl, ?_⟩)
    rw [Except.mapError_eq_ok] at hload
    cases hread : world.readError with
    | none => rwa [hread] at hload
    | some error =>
      rw [hread] at hload
      cases hload
  rintro storage s₁ ⟨hsame, hload⟩
  rw [hsame]
  refine .attempt_bind (fun _ _ => .same) fun funding hfound => ?_
  rw [okOr_eq_ok] at hfound
  refine orChain_bind (fun _ => .same) fun params hparams => ?_
  have hfunding : FundingOnDisk crates codec (trim channelId) s.file funding.mintUrl
      (((params.get? "unit").bind Json.asStr?).getD "sat") :=
    ⟨storage, funding, params, hload, hfound, hparams, rfl, rfl⟩
  have hmem : trim channelId ∈ storage.state.funding := BTreeMap.mem_of_getElem? hfound
  have hstate : storage.getState (trim channelId) = .closed ↔
      trim channelId ∈ storage.state.closed := by
    simp [FileSpilmanClientStorage.getState, hmem]
  refine .ite (fun hclosed => ?_) fun hopen => ?_
  · exact .pure ⟨_, _, hfunding, .inr (.inl ⟨rfl, rfl, storage, hload, hstate.mp hclosed⟩)⟩
  · exact restoreOpenRefund_ends hcrates hcodec hload hfunding fun hclosed =>
      hopen (hstate.mpr hclosed)

theorem restore_ends (hcrates : crates.Faithful) (hcodec : codec.Faithful) :
    Ends (restoreStreamingRouteCashuSpilmanRefund crates codec dataDir channelId world) s
      (fun _ s' => RefundFails crates codec world (trim channelId) s s')
      (RefundReturns crates codec world (trim channelId) s) :=
  orMessage_bind (fun _ => .same) fun _ _ => restoreWithLock_ends hcrates hcodec

/-- All proofs are in the wallet. -/
def InWallet (crates : RefundCrates K Q C S) (proofs : List Proof) (database : WalletDatabase) :
    Prop :=
  ∀ proof ∈ proofs, ∃ y, crates.proofs.y proof = .ok y ∧ y ∈ database.proofs

theorem ProofInfo.new_y {mint : String} {proof : Proof} {info : ProofInfo}
    (h : ProofInfo.new crates.proofs mint proof = .ok info) :
    crates.proofs.y proof = .ok info.y := by
  unfold ProofInfo.new at h
  cases hy : crates.proofs.y proof with
  | ok y =>
    rw [hy, Except.ok.injEq] at h
    rw [← h]
  | error chain =>
    rw [hy] at h
    cases h

theorem Collected.inWallet {before after : WalletDatabase} {amountSat : UInt64}
    (hcrates : crates.Faithful)
    (h : Collected crates world mintUrl unit proofs before after amountSat) :
    InWallet crates proofs after := by
  rcases h with ⟨rfl, -, -⟩ | ⟨proofsJson, proofInfos, payment, hjson, haccepted, himports, -⟩
  · simp [InWallet]
  · intro proof hproof
    obtain ⟨mint, parsed, -, hparsed, hinfos⟩ := haccepted.prepared
    obtain rfl := Except.ok.inj ((hcrates.reads proofs proofsJson hjson).symm.trans hparsed)
    have hall := mapM_eq_ok_forall₂ hinfos
    obtain ⟨k, hk, rfl⟩ := List.getElem_of_mem hproof
    have hk' : k < proofInfos.length := hall.length_eq ▸ hk
    have hnew := hall.get hk hk'
    refine ⟨_, ProofInfo.new_y hnew, ?_⟩
    have hknown := himports.known
    rw [WalletDatabase.newProofs, List.filter_eq_nil_iff] at hknown
    simpa using hknown _ (List.getElem_mem hk')

/-- What the processes of a buyer do: a refund is restored, a signer has a session, or the wallet
is used for something else. The lock of the store lets one session follow the other. -/
inductive BuyerStep (P : Type) where
  | restore (named : String) (world : RefundWorld) (answers : List (Option String))
  | session (steps : List (StoreChange ClientChannelFunding P × WriteOutcome))
  | wallet (change : WalletDatabase → WalletDatabase)

def RefundState.answered (self : RefundState) (answers : List (Option String)) : RefundState :=
  { self with connection := { self.connection with answers } }

/-- What a call leaves. A process that is stopped has done what a call that fails there has done. -/
def RefundState.left : EStateM.Result WalletError RefundState α → RefundState
  | .ok _ s => s
  | .error _ s => s

namespace BuyerStep

variable (crates : RefundCrates K Q C S) (codec : StoreFileCodec ClientChannelFunding P)
  (dataDir : Path)

def call (named : String) (world : RefundWorld) (s : RefundState) :
    EStateM.Result WalletError RefundState StreamingRouteRestoreCashuSpilmanRefundResult :=
  restoreStreamingRouteCashuSpilmanRefund crates codec dataDir named world s

def exec (s : RefundState) : BuyerStep P → RefundState
  | .restore named world answers =>
    .left (call crates codec dataDir named world (s.answered answers))
  | .session steps => { s with file := afterSession codec steps s.file }
  | .wallet change =>
    { s with connection := { s.connection with tables := change s.connection.tables } }

def after (s : RefundState) (steps : List (BuyerStep P)) : RefundState :=
  steps.foldl (exec crates codec dataDir) s

end BuyerStep

def RefundTells (crates : RefundCrates K Q C S) (codec : StoreFileCodec ClientChannelFunding P)
    (world : RefundWorld) (channelId : String) (s : RefundState) :
    EStateM.Result WalletError RefundState StreamingRouteRestoreCashuSpilmanRefundResult → Prop
  | .ok result s' => RefundReturns crates codec world channelId s result s'
  | .error _ s' => RefundFails crates codec world channelId s s'

theorem call_tells (hcrates : crates.Faithful) (hcodec : codec.Faithful) (named : String) :
    RefundTells crates codec world (trim named) s
      (BuyerStep.call crates codec dataDir named world s) := by
  have hends := @restore_ends K Q C S P crates codec world dataDir named s hcrates hcodec
  unfold BuyerStep.call
  cases hcall : restoreStreamingRouteCashuSpilmanRefund crates codec dataDir named world s with
  | ok result s' => exact hends.of_ok hcall
  | error e s' => exact hends.of_error hcall

theorem RefundTells.fails
    {result : EStateM.Result WalletError RefundState StreamingRouteRestoreCashuSpilmanRefundResult}
    (h : RefundTells crates codec world channelId s result) :
    RefundFails crates codec world channelId s (.left result) := by
  cases result with
  | ok result s' =>
    obtain ⟨mintUrl, unit, hfunding, h⟩ := h
    rcases h with ⟨-, hsame, -⟩ | ⟨-, hsame, -⟩ | ⟨proofs, amountSat, -, -, hrefunds⟩
    · exact .inl ⟨congrArg RefundState.file hsame, fun _ => hsame⟩
    · exact .inl ⟨congrArg RefundState.file hsame, fun _ => hsame⟩
    · exact .inr ⟨mintUrl, unit, proofs, amountSat, hfunding, hrefunds⟩
  | error e s' => exact h

/-- How a step closes a channel: a signer does, or its refund is in the wallet by then. -/
def BuyerStep.Closes (crates : RefundCrates K Q C S) (channelId : String) (s' : RefundState) :
    BuyerStep P → Prop
  | .restore named world _ => trim named = channelId ∧ world.fundingState = .ok .spent ∧
      ∃ proofs, world.restoredProofs = .ok proofs ∧ InWallet crates proofs s'.connection.tables
  | .session steps => ∃ outcome, (.setClosed channelId, outcome) ∈ steps
  | .wallet _ => False

theorem closed_applyAll {changes : List (StoreChange ClientChannelFunding P)}
    {state : SpilmanClientStoreFile ClientChannelFunding P}
    (h : channelId ∈ (applyAll state changes).closed) :
    channelId ∈ state.closed ∨ .setClosed channelId ∈ changes := by
  induction changes generalizing state with
  | nil => exact .inl h
  | cons change changes ih =>
    rcases ih h with hclosed | hlater
    · cases change with
      | setClosed other =>
        simp only [StoreChange.apply, Std.ExtTreeSet.mem_insert] at hclosed
        rcases hclosed with hsame | hbefore
        · rw [Std.compare_eq_iff_eq] at hsame
          exact .inr (hsame ▸ List.mem_cons_self)
        · exact .inl hbefore
      | delete other =>
        simp only [StoreChange.apply, Std.ExtTreeSet.mem_erase] at hclosed
        exact .inl hclosed.2
      | _ => exact .inl hclosed
    · exact .inr (List.mem_cons_of_mem _ hlater)

/-- A channel that a session leaves closed was closed before, or the session has closed it. -/
theorem closed_afterSession (hcodec : codec.Faithful)
    {steps : List (StoreChange ClientChannelFunding P × WriteOutcome)} {file : Option String}
    (h : ClosedOnDisk codec channelId (afterSession codec steps file)) :
    ClosedOnDisk codec channelId file ∨ ∃ outcome, (.setClosed channelId, outcome) ∈ steps := by
  obtain ⟨storage, hload, hclosed⟩ := h
  cases hbefore : loadWithLock codec (.ok file) with
  | error error =>
    simp only [afterSession, ClientSession.alone, hbefore] at hload
    cases hload
  | ok loaded =>
    obtain ⟨made, hfirst, hafter, -⟩ := alone_effect hcodec hbefore (ClientSession.mk () steps)
    obtain rfl := Except.ok.inj (hafter.symm.trans hload)
    rcases closed_applyAll hclosed with hold | hmade
    · exact .inl ⟨loaded, hbefore, hold⟩
    · obtain ⟨⟨change, outcome⟩, hmem, hchange⟩ := List.mem_map.mp (hfirst.subset hmade)
      exact .inr ⟨outcome, hchange ▸ hmem⟩

theorem closed_exec (hcrates : crates.Faithful) (hcodec : codec.Faithful) (step : BuyerStep P)
    (h : ClosedOnDisk codec channelId (step.exec crates codec dataDir s).file) :
    ClosedOnDisk codec channelId s.file ∨
      step.Closes crates channelId (step.exec crates codec dataDir s) := by
  cases step with
  | restore named world answers =>
    have htells := @call_tells K Q C S P crates codec world dataDir (s.answered answers) hcrates
      hcodec named
    rcases htells.fails with ⟨hsame, -⟩ | ⟨mintUrl, unit, proofs, amountSat, -, hrefunds⟩
    · rw [BuyerStep.exec, hsame] at h
      exact .inl h
    · rw [BuyerStep.exec, hrefunds.file] at h
      rcases closed_afterSession hcodec h with hbefore | ⟨outcome, hmem⟩
      · exact .inl hbefore
      · have hchange := List.mem_singleton.mp hmem
        simp only [Prod.mk.injEq, StoreChange.setClosed.injEq] at hchange
        exact .inr ⟨hchange.1.symm, hrefunds.spent, proofs, hrefunds.restored,
          hrefunds.collected.inWallet hcrates⟩
  | session steps => exact closed_afterSession hcodec h
  | wallet change => exact .inl h

theorem BuyerStep.after_append (earlier later : List (BuyerStep P)) :
    BuyerStep.after crates codec dataDir s (earlier ++ later) =
      BuyerStep.after crates codec dataDir (BuyerStep.after crates codec dataDir s earlier) later :=
  List.foldl_append

/-- A channel that is closed at the end was so at the start, or a step has closed it. -/
theorem closed_after (hcrates : crates.Faithful) (hcodec : codec.Faithful)
    {steps : List (BuyerStep P)}
    (h : ClosedOnDisk codec channelId (BuyerStep.after crates codec dataDir s steps).file) :
    ClosedOnDisk codec channelId s.file ∨ ∃ earlier step later, steps = earlier ++ step :: later ∧
      step.Closes crates channelId
        (BuyerStep.after crates codec dataDir s (earlier ++ [step])) := by
  induction steps using List.reverseRecOn with
  | nil => exact .inl h
  | append_singleton steps step ih =>
    have hlast := h
    rw [BuyerStep.after_append] at hlast
    rcases closed_exec hcrates hcodec step hlast with hbefore | hcloses
    · refine (ih hbefore).imp_right ?_
      rintro ⟨earlier, first, later, rfl, hcloses⟩
      exact ⟨earlier, first, later ++ [step], by simp, hcloses⟩
    · refine .inr ⟨steps, step, [], rfl, ?_⟩
      rw [BuyerStep.after_append]
      exact hcloses

def sampleFunding : ClientChannelFunding where
  paramsJson := "\x7b\"unit\":\"sat\"\x7d"
  fundingProofsJson := "[]"
  channelSecretHex := String.ofList (List.replicate 64 '0')
  keysetInfoJson := "\x7b\"keysetId\":\"009a1f293253e41e\"\x7d"
  senderPubkeyHex := "0279be667ef9dcbbac55a06295ce870b07029bfcdb2dce28d959f2815b16f81798"
  mintUrl := "https://source.example"

def sampleOpenStore : SpilmanClientStoreFile ClientChannelFunding String :=
  (StoreChange.saveFunding "channel-1" sampleFunding).apply .new

def sampleClosedStore : SpilmanClientStoreFile ClientChannelFunding String :=
  (StoreChange.setClosed "channel-1").apply sampleOpenStore

def sampleStoreBody : String :=
  "\n  \"version\": 1,\n  \"funding\": \x7b\n    \"channel-1\": \x7b\n" ++
    "      \"params_json\": \"\x7b\\\"unit\\\":\\\"sat\\\"\x7d\",\n" ++
    "      \"funding_proofs_json\": \"[]\",\n      \"channel_secret_hex\": \"" ++
    sampleFunding.channelSecretHex ++ "\",\n" ++
    "      \"keyset_info_json\": \"\x7b\\\"keysetId\\\":\\\"009a1f293253e41e\\\"\x7d\",\n" ++
    "      \"sender_pubkey_hex\": \"" ++ sampleFunding.senderPubkeyHex ++ "\",\n" ++
    "      \"capacity\": 4,\n      \"funding_token_amount\": 4,\n" ++
    "      \"mint_url\": \"https://source.example\",\n      \"created_at\": 123\n    \x7d\n  \x7d,\n" ++
    "  \"payments\": \x7b\x7d,\n  \"closed\": "

def sampleStoreText (closed : String) : String :=
  "\x7b" ++ (sampleStoreBody ++ (closed ++ "\n\x7d"))

def sampleOpenText : String := sampleStoreText "[]"

def sampleClosedText : String := sampleStoreText "[\n    \"channel-1\"\n  ]"

def twoStateCodec (openText closedText : String) : StoreFileCodec ClientChannelFunding String where
  encode state :=
    if state.version = 1 ∧ state.funding.toList = [("channel-1", sampleFunding)] ∧
      state.payments.toList = [] ∧ state.closed.toList = [] then .ok openText
    else if state.version = 1 ∧ state.funding.toList = [("channel-1", sampleFunding)] ∧
      state.payments.toList = [] ∧ state.closed.toList = ["channel-1"] then .ok closedText
    else .error "not written"
  decode content :=
    if content = openText then .ok sampleOpenStore
    else if content = closedText then .ok sampleClosedStore
    else .error "expected value at line 1 column 1"

def sampleRefundCodec : StoreFileCodec ClientChannelFunding String :=
  twoStateCodec sampleOpenText sampleClosedText

theorem sampleStore_eq {state state' : SpilmanClientStoreFile ClientChannelFunding String}
    (hversion : state.version = state'.version)
    (hfunding : state.funding.toList = state'.funding.toList)
    (hpayments : state.payments.toList = state'.payments.toList)
    (hclosed : state.closed.toList = state'.closed.toList) : state = state' := by
  obtain ⟨version, funding, payments, closed⟩ := state
  obtain rfl := BTreeMap.ext_entries (n := state'.funding) hfunding
  obtain rfl := BTreeMap.ext_entries (n := state'.payments) hpayments
  obtain rfl : version = state'.version := hversion
  obtain rfl : closed = state'.closed := Std.ExtTreeSet.ext_toList (hclosed ▸ .refl _)
  rfl

theorem twoStateCodec_faithful {openText closedText : String} (hopen : isBlank openText = false)
    (hclosed : isBlank closedText = false) (hne : closedText ≠ openText) :
    (twoStateCodec openText closedText).Faithful := by
  intro state content h
  simp only [twoStateCodec] at h ⊢
  split at h
  · rename_i hstate
    obtain rfl := Except.ok.inj h
    have hsame : state = sampleOpenStore :=
      sampleStore_eq hstate.1 (hstate.2.1.trans (by decide +kernel)) hstate.2.2.1 hstate.2.2.2
    rw [if_pos rfl, hsame]
    exact ⟨rfl, hopen⟩
  · split at h
    · rename_i hstate
      obtain rfl := Except.ok.inj h
      have hsame : state = sampleClosedStore :=
        sampleStore_eq hstate.1 (hstate.2.1.trans (by decide +kernel)) hstate.2.2.1
          (hstate.2.2.2.trans (by decide +kernel))
      rw [if_neg hne, if_pos rfl, hsame]
      exact ⟨rfl, hclosed⟩
    · cases h

theorem sampleStoreText_blank (closed : String) : isBlank (sampleStoreText closed) = false := by
  refine isBlank_of_mem (c := '\x7b') ?_ (by decide)
  rw [sampleStoreText, String.toList_append]
  exact List.mem_append_left _ (by decide)

theorem sampleText_ne : sampleClosedText ≠ sampleOpenText := by
  intro h
  have hlength := congrArg String.length h
  simp only [sampleClosedText, sampleOpenText, sampleStoreText, String.length_append] at hlength
  have hclosed : "[\n    \"channel-1\"\n  ]".length = 21 := by decide
  have hopen : "[]".length = 2 := by decide
  omega

theorem sampleRefundCodec_faithful : sampleRefundCodec.Faithful :=
  twoStateCodec_faithful (sampleStoreText_blank _) (sampleStoreText_blank _) sampleText_ne

def sampleRefundCrates : RefundCrates String String String String where
  proofs := { sampleProofCrates with
    parseProofs := fun json => if json = "[]" then .ok [] else sampleProofCrates.parseProofs json }
  encodeProofs proofs := if proofs = [sampleProof] then .ok onceJson else .error ["not written"]
  parseJson _ := .ok (.object [("unit", .string "sat")])
  parseKeysetInfoFromJson := .ok
  hexDecode _ := .ok (List.replicate 32 0)
  channelParameters json _ _ := .ok json
  establishedChannel params _ := .ok params
  secretKeyFromHex := .ok

theorem sampleRefundCrates_faithful : sampleRefundCrates.Faithful where
  query := ⟨sampleProofCrates_faithful.finds, sampleProofCrates_faithful.found⟩
  reads := by
    intro proofs json h
    simp only [sampleRefundCrates] at h ⊢
    split at h
    · rename_i hproofs
      obtain rfl := Except.ok.inj h
      have hne : onceJson ≠ "[]" := by decide +kernel
      rw [if_neg hne, hproofs]
      exact parse_once
    · cases h

def sampleRefundWorld : RefundWorld where
  acquired := .ok ⟨["data", "spilman-client.json"], ⟨1, ""⟩⟩
  readError := none
  senderKey := .ok ⟨1, String.ofList (List.replicate 63 '0' ++ ['1']),
    sampleFunding.senderPubkeyHex⟩
  outputKeysetJson := .ok sampleFunding.keysetInfoJson
  fundingState := .ok .spent
  restoredProofs := .ok [sampleProof]
  openWallet := .ok ()
  importing := sampleImportWorld
  write := .fails "disk full" false

def sampleRefundSteps : List (BuyerStep String) :=
  [.restore "channel-1" sampleRefundWorld [],
    .restore " channel-1 " { sampleRefundWorld with write := .succeeds } []]

/-- A channel is closed only once its refund is in the wallet, and a call tells what it has done. -/
theorem refund_before_close (hcrates : crates.Faithful) (hcodec : codec.Faithful) (dataDir : Path)
    (s : RefundState) (steps : List (BuyerStep P)) :
    (∀ channelId,
      ClosedOnDisk codec channelId (BuyerStep.after crates codec dataDir s steps).file →
      ClosedOnDisk codec channelId s.file ∨
        ∃ earlier step later, steps = earlier ++ step :: later ∧ step.Closes crates channelId
          (BuyerStep.after crates codec dataDir s (earlier ++ [step]))) ∧
    ∀ named world answers, RefundTells crates codec world (trim named)
      ((BuyerStep.after crates codec dataDir s steps).answered answers)
      (BuyerStep.call crates codec dataDir named world
        ((BuyerStep.after crates codec dataDir s steps).answered answers)) :=
  ⟨fun _ h => closed_after hcrates hcodec h, fun named _ _ => call_tells hcrates hcodec named⟩

theorem refund_before_close_sample :
    (∀ channelId,
      ClosedOnDisk sampleRefundCodec channelId (BuyerStep.after sampleRefundCrates
        sampleRefundCodec ["data"] ⟨⟨.fresh, []⟩, some sampleOpenText⟩ sampleRefundSteps).file →
      ClosedOnDisk sampleRefundCodec channelId (some sampleOpenText) ∨
        ∃ earlier step later, sampleRefundSteps = earlier ++ step :: later ∧
          step.Closes sampleRefundCrates channelId (BuyerStep.after sampleRefundCrates
            sampleRefundCodec ["data"] ⟨⟨.fresh, []⟩, some sampleOpenText⟩ (earlier ++ [step]))) ∧
    ∀ named world answers, RefundTells sampleRefundCrates sampleRefundCodec world (trim named)
      ((BuyerStep.after sampleRefundCrates sampleRefundCodec ["data"]
        ⟨⟨.fresh, []⟩, some sampleOpenText⟩ sampleRefundSteps).answered answers)
      (BuyerStep.call sampleRefundCrates sampleRefundCodec ["data"] named world
        ((BuyerStep.after sampleRefundCrates sampleRefundCodec ["data"]
          ⟨⟨.fresh, []⟩, some sampleOpenText⟩ sampleRefundSteps).answered answers)) :=
  refund_before_close sampleRefundCrates_faithful sampleRefundCodec_faithful ["data"]
    ⟨⟨.fresh, []⟩, some sampleOpenText⟩ sampleRefundSteps

end CashuService

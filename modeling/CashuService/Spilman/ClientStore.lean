import CashuService.Base.BTreeMap
import CashuService.Base.RustStd
set_option autoImplicit false

namespace CashuService

/-! `spilman_client.rs`: the channels of a buyer, in memory and in a file. The trait that the
storage implements reports no errors, so the last one is kept aside for the caller. `F` is what
`cdk_spilman` keeps of the funding of a channel, `P` of its payments. -/

def spilmanClientStoreVersion : UInt16 := 1

structure SpilmanClientStoreFile (F P : Type) where
  version : UInt16
  funding : BTreeMap String F
  payments : BTreeMap String P
  closed : Std.ExtTreeSet String compare

structure StoreFileCodec (F P : Type) where
  encode : SpilmanClientStoreFile F P → Except String String
  decode : String → Except String (SpilmanClientStoreFile F P)

def StoreFileCodec.Faithful {F P : Type} (codec : StoreFileCodec F P) : Prop :=
  ∀ state content, codec.encode state = .ok content →
    codec.decode content = .ok state ∧ isBlank content = false

structure FileSpilmanClientStorage (F P : Type) where
  state : SpilmanClientStoreFile F P
  lastError : Option String

inductive ClientChannelState where
  | opened | closed
  deriving DecidableEq, Repr

/-- What becomes of a write: the file is replaced, or the write fails, before or after that. -/
inductive WriteOutcome where
  | succeeds
  | fails (error : String) (replaced : Bool)
  deriving DecidableEq, Repr

structure StoreSession (F P : Type) where
  storage : FileSpilmanClientStorage F P
  file : Option String

section

variable {F P : Type}

namespace SpilmanClientStoreFile

def new : SpilmanClientStoreFile F P where
  version := spilmanClientStoreVersion
  funding := ∅
  payments := ∅
  closed := ∅

end SpilmanClientStoreFile

namespace FileSpilmanClientStorage

def ensureOk (self : FileSpilmanClientStorage F P) : Except String Unit :=
  match self.lastError with
  | some error => .error error
  | none => .ok ()

def getFunding (self : FileSpilmanClientStorage F P) (channelId : String) : Option F :=
  self.state.funding[channelId]?

def getPaymentState (self : FileSpilmanClientStorage F P) (channelId : String) : Option P :=
  self.state.payments[channelId]?

def getState (self : FileSpilmanClientStorage F P) (channelId : String) : ClientChannelState :=
  if channelId ∈ self.state.closed then .closed
  else if channelId ∈ self.state.funding then .opened
  else .closed

def listChannelIds (self : FileSpilmanClientStorage F P) : List String := self.state.funding.keys

end FileSpilmanClientStorage

def loadWithLock (codec : StoreFileCodec F P) (read : Except String (Option String)) :
    Except String (FileSpilmanClientStorage F P) :=
  match read with
  | .ok (some content) =>
    if isBlank content then .ok ⟨.new, none⟩
    else
      match codec.decode content with
      | .error error => .error s!"failed to decode Spilman client store: {error}"
      | .ok state =>
        if state.version ≠ spilmanClientStoreVersion then
          .error s!"unsupported Spilman client store version {state.version}"
        else .ok ⟨state, none⟩
  | .ok none => .ok ⟨.new, none⟩
  | .error error => .error s!"failed to read Spilman client store: {error}"

def writeAtomicPrivate (outcome : WriteOutcome) (content : String) (file : Option String) :
    Except String Unit × Option String :=
  match outcome with
  | .succeeds => (.ok (), some content)
  | .fails error replaced => (.error error, if replaced then some content else file)

inductive StoreChange (F P : Type) where
  | saveFunding (channelId : String) (funding : F)
  | savePaymentState (channelId : String) (state : P)
  | setClosed (channelId : String)
  | delete (channelId : String)

def StoreChange.apply (change : StoreChange F P) (state : SpilmanClientStoreFile F P) :
    SpilmanClientStoreFile F P :=
  match change with
  | .saveFunding channelId funding =>
    { state with funding := state.funding.insert channelId funding }
  | .savePaymentState channelId payment =>
    { state with payments := state.payments.insert channelId payment }
  | .setClosed channelId => { state with closed := state.closed.insert channelId }
  | .delete channelId =>
    { state with
      funding := state.funding.erase channelId
      payments := state.payments.erase channelId
      closed := state.closed.erase channelId }

namespace StoreSession

def writeSnapshot (codec : StoreFileCodec F P) (outcome : WriteOutcome)
    (self : StoreSession F P) : Except String Unit × Option String :=
  match codec.encode self.storage.state with
  | .error error => (.error s!"failed to encode Spilman client store: {error}", self.file)
  | .ok content =>
    let (result, file) := writeAtomicPrivate outcome content self.file
    (result.mapError fun error => s!"failed to write Spilman client store: {error}", file)

def persist (codec : StoreFileCodec F P) (outcome : WriteOutcome) (self : StoreSession F P) :
    StoreSession F P :=
  match self.writeSnapshot codec outcome with
  | (.ok (), file) => ⟨{ self.storage with lastError := none }, file⟩
  | (.error error, file) => ⟨{ self.storage with lastError := some error }, file⟩

/-- A method of the storage changes its state and persists all of it. -/
def change (codec : StoreFileCodec F P) (self : StoreSession F P)
    (step : StoreChange F P × WriteOutcome) : StoreSession F P :=
  { self with
    storage := { self.storage with state := step.1.apply self.storage.state } }.persist codec step.2

def run (codec : StoreFileCodec F P) (self : StoreSession F P)
    (steps : List (StoreChange F P × WriteOutcome)) : StoreSession F P :=
  steps.foldl (change codec) self

end StoreSession
variable {codec : StoreFileCodec F P} {storage : FileSpilmanClientStorage F P}

theorem loadWithLock_eq_ok {read : Except String (Option String)}
    (h : loadWithLock codec read = .ok storage) :
    storage.state.version = spilmanClientStoreVersion ∧ storage.lastError = none := by
  unfold loadWithLock at h
  split at h
  · split at h
    · obtain rfl := Except.ok.inj h
      exact ⟨rfl, rfl⟩
    · split at h
      · cases h
      · split at h
        · cases h
        · rename_i hversion
          obtain rfl := Except.ok.inj h
          exact ⟨not_not.mp hversion, rfl⟩
  · obtain rfl := Except.ok.inj h
    exact ⟨rfl, rfl⟩
  · cases h

theorem loadWithLock_encoded (hcodec : codec.Faithful) {state : SpilmanClientStoreFile F P}
    {content : String} (hversion : state.version = spilmanClientStoreVersion)
    (h : codec.encode state = .ok content) :
    loadWithLock codec (.ok (some content)) = .ok ⟨state, none⟩ := by
  obtain ⟨hdecode, hblank⟩ := hcodec state content h
  simp [loadWithLock, hblank, hdecode, hversion]

theorem StoreChange.apply_version (change : StoreChange F P) (state : SpilmanClientStoreFile F P) :
    (change.apply state).version = state.version := by
  cases change <;> rfl

theorem FileSpilmanClientStorage.ensureOk_eq_ok :
    storage.ensureOk = .ok () ↔ storage.lastError = none := by
  unfold ensureOk
  cases storage.lastError <;> simp

namespace StoreSession

variable {session : StoreSession F P} {outcome : WriteOutcome}

@[simp] theorem persist_state : (session.persist codec outcome).storage.state =
    session.storage.state := by
  unfold persist
  split <;> rfl

/-- Without an error the file holds what the memory holds. -/
structure Durable (codec : StoreFileCodec F P) (session : StoreSession F P) : Prop where
  version : session.storage.state.version = spilmanClientStoreVersion
  clean : session.storage.lastError = none →
    loadWithLock codec (.ok session.file) = .ok ⟨session.storage.state, none⟩

/-- Only a write that succeeds clears the error, and it writes all of the state. -/
theorem persist_clean (h : (session.persist codec outcome).storage.lastError = none) :
    outcome = .succeeds ∧ ∃ content, codec.encode session.storage.state = .ok content ∧
      (session.persist codec outcome).file = some content := by
  unfold persist writeSnapshot at h ⊢
  cases hencode : codec.encode session.storage.state with
  | error error => simp [hencode] at h
  | ok content =>
    cases outcome with
    | succeeds => simp [writeAtomicPrivate, Except.mapError]
    | fails error replaced => simp [hencode, writeAtomicPrivate, Except.mapError] at h

theorem persist_durable (hcodec : codec.Faithful)
    (hversion : session.storage.state.version = spilmanClientStoreVersion) :
    Durable codec (session.persist codec outcome) where
  version := by rwa [persist_state]
  clean := by
    intro hclean
    obtain ⟨-, content, hencode, hfile⟩ := persist_clean hclean
    rw [hfile, persist_state]
    exact loadWithLock_encoded hcodec hversion hencode

theorem change_state (step : StoreChange F P × WriteOutcome) :
    (session.change codec step).storage.state = step.1.apply session.storage.state :=
  persist_state

theorem Durable.change (h : Durable codec session) (hcodec : codec.Faithful)
    (step : StoreChange F P × WriteOutcome) : Durable codec (session.change codec step) :=
  persist_durable hcodec ((step.1.apply_version _).trans h.version)

theorem Durable.run (h : Durable codec session) (hcodec : codec.Faithful)
    (steps : List (StoreChange F P × WriteOutcome)) : Durable codec (session.run codec steps) := by
  induction steps generalizing session with
  | nil => exact h
  | cons step steps ih => exact ih (h.change hcodec step)

theorem run_state (steps : List (StoreChange F P × WriteOutcome)) :
    (session.run codec steps).storage.state =
      steps.foldl (fun state step => step.1.apply state) session.storage.state := by
  induction steps generalizing session with
  | nil => rfl
  | cons step steps ih =>
    have hrest := @ih (session.change codec step)
    rw [change_state] at hrest
    exact hrest

theorem run_concat (steps : List (StoreChange F P × WriteOutcome))
    (step : StoreChange F P × WriteOutcome) :
    session.run codec (steps ++ [step]) = (session.run codec steps).change codec step :=
  List.foldl_concat ..

end StoreSession

/-- After a restart the storage is what it was before. -/
structure SurvivesRestart (codec : StoreFileCodec F P) (session : StoreSession F P)
    (reloaded : FileSpilmanClientStorage F P) : Prop where
  loaded : loadWithLock codec (.ok session.file) = .ok reloaded
  state : reloaded.state = session.storage.state
  getState : ∀ channelId, reloaded.getState channelId = session.storage.getState channelId
  getPaymentState : ∀ channelId,
    reloaded.getPaymentState channelId = session.storage.getPaymentState channelId
  listChannelIds : reloaded.listChannelIds = session.storage.listChannelIds

theorem StoreSession.Durable.survivesRestart {session : StoreSession F P}
    (h : Durable codec session) (hok : session.storage.ensureOk = .ok ()) :
    SurvivesRestart codec session ⟨session.storage.state, none⟩ where
  loaded := h.clean (FileSpilmanClientStorage.ensureOk_eq_ok.mp hok)
  state := rfl
  getState := fun _ => rfl
  getPaymentState := fun _ => rfl
  listChannelIds := rfl

/-- The memory has every change since the load. A storage without an error survives a restart, and
an error is only forgotten when all of the changes are in the file. -/
theorem run_durable (hcodec : codec.Faithful) {file : Option String}
    (hload : loadWithLock codec (.ok file) = .ok storage)
    (steps : List (StoreChange F P × WriteOutcome)) :
    ((StoreSession.run codec ⟨storage, file⟩ steps).storage.ensureOk = .ok () →
      ∃ reloaded, SurvivesRestart codec (StoreSession.run codec ⟨storage, file⟩ steps) reloaded) ∧
    (StoreSession.run codec ⟨storage, file⟩ steps).storage.state =
      steps.foldl (fun state step => step.1.apply state) storage.state ∧
    ∀ earlier step, steps = earlier ++ [step] →
      (StoreSession.run codec ⟨storage, file⟩ earlier).storage.ensureOk ≠ .ok () →
      (StoreSession.run codec ⟨storage, file⟩ steps).storage.ensureOk = .ok () →
      step.2 = .succeeds ∧ ∃ content,
        codec.encode (steps.foldl (fun state step => step.1.apply state) storage.state) =
          .ok content ∧
        (StoreSession.run codec ⟨storage, file⟩ steps).file = some content := by
  obtain ⟨hversion, hclean⟩ := loadWithLock_eq_ok hload
  have hstart : StoreSession.Durable codec ⟨storage, file⟩ := by
    refine ⟨hversion, fun _ => ?_⟩
    rw [hload, ← hclean]
  refine ⟨fun hok => ⟨_, (hstart.run hcodec steps).survivesRestart hok⟩,
    StoreSession.run_state steps, ?_⟩
  intro earlier step hsteps _ hok
  have hstate := @StoreSession.run_state F P codec ⟨storage, file⟩ steps
  subst hsteps
  rw [StoreSession.run_concat] at hok hstate ⊢
  rw [FileSpilmanClientStorage.ensureOk_eq_ok] at hok
  obtain ⟨hsucceeds, content, hencode, hfile⟩ := StoreSession.persist_clean hok
  rw [StoreSession.change_state] at hstate
  rw [← hstate]
  exact ⟨hsucceeds, content, hencode, hfile⟩

def sampleStoreState : SpilmanClientStoreFile String String :=
  (StoreChange.setClosed "channel-1").apply .new

def sampleStoreContent : String :=
  "\x7b\n  \"version\": 1,\n  \"funding\": \x7b\x7d,\n  \"payments\": \x7b\x7d,\n" ++
    "  \"closed\": [\n    \"channel-1\"\n  ]\n\x7d"

def sampleStoreCodec : StoreFileCodec String String where
  encode state :=
    if state.version = 1 ∧ state.funding.toList = [] ∧ state.payments.toList = [] ∧
      state.closed.toList = ["channel-1"] then .ok sampleStoreContent
    else .error "not written"
  decode content :=
    if content = sampleStoreContent then .ok sampleStoreState
    else .error "expected value at line 1 column 1"

theorem sampleStoreCodec_faithful : sampleStoreCodec.Faithful := by
  intro state content h
  simp only [sampleStoreCodec] at h
  split at h
  · rename_i hstate
    obtain ⟨hversion, hfunding, hpayments, hclosed⟩ := hstate
    obtain rfl := Except.ok.inj h
    have hsame : state = sampleStoreState := by
      obtain ⟨version, funding, payments, closed⟩ := state
      obtain rfl := BTreeMap.ext_entries (n := ∅) hfunding
      obtain rfl := BTreeMap.ext_entries (n := ∅) hpayments
      obtain rfl : version = 1 := hversion
      obtain rfl : closed = sampleStoreState.closed :=
        Std.ExtTreeSet.ext_toList (hclosed ▸ .refl _)
      rfl
    refine ⟨?_, by decide +kernel⟩
    simp only [sampleStoreCodec, if_true, hsame]
  · cases h

theorem run_durable_sample :
    ∃ reloaded, SurvivesRestart sampleStoreCodec
      (StoreSession.run sampleStoreCodec ⟨⟨.new, none⟩, none⟩
        [(.setClosed "channel-1", .fails "disk full" false), (.setClosed "channel-1", .succeeds)])
      reloaded :=
  (run_durable sampleStoreCodec_faithful rfl _).1 (by decide +kernel)

end
end CashuService

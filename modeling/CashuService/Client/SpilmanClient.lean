import CashuService.Client.PrivateFile
import CashuService.Spilman.ClientStore
set_option autoImplicit false

namespace CashuService

/-! `spilman_client.rs`: the processes of a buyer that share one data directory. -/

inductive ClientError where
  | failed (message : String)
  /-- The process was given up in a loop. -/
  | unfinished
  deriving DecidableEq, Repr

def ClientError.message : ClientError → String
  | .failed message => message
  | .unfinished => "unfinished"

abbrev SecretBytes := Vector UInt8 32

abbrev ClientM (ι : Type) :=
  ExceptT ClientError (Thread (Answer SecretBytes) (FileSystem Path String ι))

def spilmanClientStorePath (dataDir : Path) : Path := dataDir ++ ["spilman-client.json"]

def lockPathForStore (storePath : Path) : Path :=
  storePath.dropLast ++ [storePath.getLast?.getD "" ++ ".lock"]

def spilmanClientStoreLockPath (dataDir : Path) : Path :=
  lockPathForStore (spilmanClientStorePath dataDir)

def spilmanSenderKeyPath (dataDir : Path) : Path := dataDir ++ ["spilman-sender-key.json"]

structure SharedSpilmanClientStoreLock where
  storePath : Path
  file : PrivateFile
  deriving DecidableEq, Repr

def requireLockForDataDir (dataDir : Path) (lock : SharedSpilmanClientStoreLock) :
    Except String SharedSpilmanClientStoreLock :=
  let expected := spilmanClientStorePath dataDir
  if lock.storePath ≠ expected then
    .error (s!"Spilman client store lock is for {lock.storePath.display}, " ++
      s!"expected {expected.display}")
  else .ok lock

def spilmanSenderKeyVersion : UInt16 := 1

structure CashuSpilmanSenderKeyFile where
  version : UInt16
  secretHex : String
  publicKeyHex : String
  deriving DecidableEq, Repr

structure SenderKeyCrates where
  encode : CashuSpilmanSenderKeyFile → Except String String
  decode : String → Except String CashuSpilmanSenderKeyFile
  addKeyFromHex : String → Except String String

/-- What is written is read again. -/
def SenderKeyCrates.Faithful (crates : SenderKeyCrates) : Prop :=
  ∀ key content, crates.encode key = .ok content → crates.decode content = .ok key

/-- What `cdk_spilman` does with a storage: it changes it, and looks at it after each change. -/
inductive Bridge (F P α : Type) where
  | done (result : Except String α)
  | change (change : StoreChange F P) (next : FileSpilmanClientStorage F P → Bridge F P α)

section

variable {ι F P α : Type}

def ClientError.ofIo (text : String) : IoError → ClientError
  | .unfinished => .unfinished
  | e => .failed (text ++ e.toString)

def mapIoError (text : String) (x : PrivateM ι SecretBytes α) : ClientM ι α :=
  ExceptT.adapt (ClientError.ofIo text) x

def orFail (x : Except String α) : ClientM ι α :=
  match x with
  | .ok a => return a
  | .error message => throw (.failed message)

/-- No file is returned where the lock is busy. -/
def acquireInner (i : ι) (storePath : Path) (nonblocking : Bool) (rounds : Nat) :
    ClientM ι (Option SharedSpilmanClientStoreLock) := do
  let lockPath := lockPathForStore storePath
  let file ← mapIoError s!"failed to open Spilman client store lock {lockPath.display}: "
    (openPrivateLockFile lockPath rounds)
  let result ← caught (if nonblocking then tryFlock i file.inode else flock i file.inode)
  match result with
  | .ok _ => return some ⟨storePath, file⟩
  | .error e =>
    if nonblocking ∧ e = .wouldBlock then return none
    else throw (.ofIo s!"failed to lock Spilman client store {storePath.display}: " e)

variable (crates : SenderKeyCrates)

def decodeCashuSpilmanSenderKey (content : String) : Except String CashuSpilmanSenderKeyFile :=
  match crates.decode content with
  | .error error => .error s!"failed to decode Spilman sender key: {error}"
  | .ok key =>
    if key.version ≠ spilmanSenderKeyVersion then
      .error s!"unsupported Spilman sender key version {key.version}"
    else
      match crates.addKeyFromHex key.secretHex with
      | .error error => .error error
      | .ok publicKeyHex =>
        if publicKeyHex ≠ key.publicKeyHex then
          .error "Spilman sender key public key does not match secret"
        else .ok key

/-- Bytes that are no key are drawn again, so the last draw is one. -/
def generateCashuSpilmanSenderKey : ClientM ι CashuSpilmanSenderKeyFile :=
  ExceptT.mk (Thread.atomic
    (fun answer fs =>
      if (crates.addKeyFromHex (hexEncode answer.data.toList)).isOk then some fs else none)
    fun answer _ =>
      let secretHex := hexEncode answer.data.toList
      match crates.addKeyFromHex secretHex with
      | .ok publicKeyHex => .ok ⟨spilmanSenderKeyVersion, secretHex, publicKeyHex⟩
      | .error error => .error (.failed error))

def writeCashuSpilmanSenderKey (path : Path) (key : CashuSpilmanSenderKeyFile) :
    ClientM ι Bool := do
  let content ← orFail ((crates.encode key).mapError
    fun error => s!"failed to encode Spilman sender key: {error}")
  mapIoError "failed to write Spilman sender key: " (createAtomicPrivate path content)

def loadOrCreateCashuSpilmanSenderKeyFrom (path : Path) :
    Nat → ClientM ι CashuSpilmanSenderKeyFile
  | 0 => throw .unfinished
  | rounds + 1 => do
    match ← caught (readPrivateRegularToString path) with
    | .ok content => orFail (decodeCashuSpilmanSenderKey crates content)
    | .error .notFound =>
      let key ← generateCashuSpilmanSenderKey crates
      if ← writeCashuSpilmanSenderKey crates path key then return key
      else loadOrCreateCashuSpilmanSenderKeyFrom path rounds
    | .error e => throw (.ofIo "failed to read Spilman sender key: " e)

def loadOrCreateCashuSpilmanSenderKey (dataDir : Path) (rounds : Nat) :
    ClientM ι CashuSpilmanSenderKeyFile :=
  loadOrCreateCashuSpilmanSenderKeyFrom crates (spilmanSenderKeyPath dataDir) rounds

variable (codec : StoreFileCodec F P)

def FileSpilmanClientStorage.load (lock : SharedSpilmanClientStoreLock) :
    ClientM ι (FileSpilmanClientStorage F P) := do
  let read ← caught (readPrivateRegularToString lock.storePath)
  match read with
  | .ok content => orFail (loadWithLock codec (.ok (some content)))
  | .error .notFound => orFail (loadWithLock codec (.ok none))
  | .error e => orFail (loadWithLock codec (.error e.toString))

namespace FileSpilmanClientStorage

def writeSnapshot (path : Path) (self : FileSpilmanClientStorage F P) : ClientM ι Unit := do
  let content ← orFail ((codec.encode self.state).mapError
    fun error => s!"failed to encode Spilman client store: {error}")
  mapIoError "failed to write Spilman client store: " (writeAtomicPrivateFile path content)

def persist (path : Path) (self : FileSpilmanClientStorage F P) :
    ClientM ι (FileSpilmanClientStorage F P) := do
  match ← caught (self.writeSnapshot codec path) with
  | .ok _ => return { self with lastError := none }
  | .error e => return { self with lastError := some e.message }

end FileSpilmanClientStorage

/-- The bridge on the storage in its file. -/
def Bridge.perform (path : Path) : Bridge F P α → FileSpilmanClientStorage F P →
    ClientM ι (Except String α × FileSpilmanClientStorage F P)
  | .done result, storage => return (result, storage)
  | .change step next, storage => do
    let storage ← { storage with state := step.apply storage.state }.persist codec path
    (next storage).perform path storage

structure FileSpilmanPaymentSigner (F P : Type) where
  sender : CashuSpilmanSenderKeyFile
  storage : FileSpilmanClientStorage F P

namespace FileSpilmanPaymentSigner

def loadWithLock (dataDir : Path) (lock : SharedSpilmanClientStoreLock) (rounds : Nat) :
    ClientM ι (FileSpilmanPaymentSigner F P) := do
  let lock ← orFail (requireLockForDataDir dataDir lock)
  let storage ← FileSpilmanClientStorage.load codec lock
  let sender ← loadOrCreateCashuSpilmanSenderKey crates dataDir rounds
  let publicKeyHex ← orFail (crates.addKeyFromHex sender.secretHex)
  if publicKeyHex ≠ sender.publicKeyHex then
    throw (.failed "Spilman sender key public key does not match secret")
  else return ⟨sender, storage⟩

def sign (dataDir : Path) (work : FileSpilmanPaymentSigner F P → Bridge F P α)
    (self : FileSpilmanPaymentSigner F P) : ClientM ι α := do
  let (result, storage) ←
    (work self).perform codec (spilmanClientStorePath dataDir) self.storage
  let payment ← orFail result
  orFail storage.ensureOk
  return payment

/-- A signer is loaded, signs and is dropped, and with it the file of its lock. -/
def session (i : ι) [DecidableEq ι] (dataDir : Path) (nonblocking : Bool)
    (work : FileSpilmanPaymentSigner F P → Bridge F P α) (rounds : Nat) :
    ClientM ι (Option α) := do
  match ← acquireInner i (spilmanClientStorePath dataDir) nonblocking rounds with
  | none => return none
  | some lock =>
    let result : Except ClientError α ← caught do
      let signer ← loadWithLock crates codec dataDir lock rounds
      signer.sign codec dataDir work
    close i lock.file.inode
    match result with
    | .ok payment => return some payment
    | .error e => throw e

end FileSpilmanPaymentSigner

end
end CashuService

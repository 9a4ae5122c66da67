import CashuService.Base.Process
set_option autoImplicit false

namespace CashuService

/-! `wallet.rs`, `persistence.rs` and `runtime.rs`: the seed of a wallet on disk, and how a wallet
is opened. -/

/-- A file or a directory, named by the components of its path once `.`, `..` and the links on the
way to it are followed. -/
abbrev Path := List String

abbrev Seed := Vector UInt8 64

/-- The text of a seed file: `serde_json` and `hex` at the schema of `CashuWalletSeedFile`. -/
structure SeedFileFormat where
  encode : Seed → Except String String
  decode : String → Except String Seed

inductive SeedError where
  | stopped
  | io (message : String)
  | malformed (message : String)
  | alreadyInUse (walletDir : Path)
  | refusingToReplace (path : Path)
  | doesNotMatch (legacyPath : Path)
  | notPreserved
  | seedMissing (databasePath : Path)
  | context (text : String) (cause : SeedError)
  deriving DecidableEq, Repr

/-- What survives a process: the files, and what a seed store keeps elsewhere. -/
structure Disk (V : Type) where
  files : Path → Option String
  vault : V

namespace Disk

variable {V : Type}

def write (self : Disk V) (path : Path) (content : String) : Disk V :=
  { self with files := Function.update self.files path (some content) }

def remove (self : Disk V) (path : Path) : Disk V :=
  { self with files := Function.update self.files path none }

def create (self : Disk V) (path : Path) : Disk V :=
  if (self.files path).isSome then self else self.write path ""

end Disk

abbrev SeedM (V : Type) := EStateM SeedError (Process Unit (Disk V))

variable {V : Type}

def context {α : Type} (text : String) (x : SeedM V α) : SeedM V α :=
  onError (fun e => if e = .stopped then .stopped else .context text e) x

def osCall (effect : Disk V → Disk V) : SeedM V Unit :=
  call .stopped .io (fun _ => effect) fun n d => if n = 0 then d else effect d

def osQuery : SeedM V Unit := osCall id

def pathExists (path : Path) : SeedM V Bool := peek fun d => (d.files path).isSome

def readToString (path : Path) : SeedM V String := do
  osQuery
  match ← peek fun d => d.files path with
  | some content => return content
  | none => throw (.io "No such file or directory")

/-- `fs::write`: the file is emptied first, and an interrupted write leaves the start of the
content behind. -/
def writeFile (path : Path) (content : String) : SeedM V Unit :=
  call .stopped .io (fun _ d => d.write path content) fun n d =>
    match n with
    | 0 => d
    | n + 1 => d.write path (String.ofList (content.toList.take n))

def removeFile (path : Path) : SeedM V Unit := do
  if ← pathExists path then osCall fun d => d.remove path
  else return ()

def cashuWalletDir (dataDir : Path) : Path := dataDir ++ ["cashu"]

def cashuWalletDbPath (dataDir : Path) : Path := cashuWalletDir dataDir ++ ["wallet.sqlite"]

def cashuWalletSeedPath (dataDir : Path) : Path := cashuWalletDir dataDir ++ ["seed.json"]

variable (format : SeedFileFormat)

def readWalletSeed (path : Path) : SeedM V Seed := do
  let content ← context "Failed to read Cashu wallet seed" (readToString path)
  attempt ((format.decode content).mapError .malformed)

def writeWalletSeed (path : Path) (seed : Seed) : SeedM V Unit := do
  context "Failed to create Cashu wallet directory" osQuery
  let content ← context "Failed to encode Cashu wallet seed"
    (attempt ((format.encode seed).mapError .malformed))
  context "Failed to write Cashu wallet seed" (writeFile path content)
  context "Failed to secure Cashu wallet seed permissions" osQuery

/-- The trait `CashuWalletSeedStore`: what a platform does to load a seed, and to store one. -/
structure SeedStore (V : Type) where
  loadSeed : SeedM V (Option Seed)
  storeSeed : Seed → SeedM V Unit

structure FileCashuWalletSeedStore where
  path : Path
  deriving DecidableEq, Repr

namespace FileCashuWalletSeedStore

/-- What is kept of the path is the file that it leads to. -/
def new (resolve : String → Path) (path : String) : FileCashuWalletSeedStore := ⟨resolve path⟩

def forDataDir (dataDir : Path) : FileCashuWalletSeedStore := ⟨cashuWalletSeedPath dataDir⟩

def loadSeed (self : FileCashuWalletSeedStore) : SeedM V (Option Seed) := do
  if ← pathExists self.path then return some (← readWalletSeed format self.path)
  else return none

def storeSeed (self : FileCashuWalletSeedStore) (seed : Seed) : SeedM V Unit := do
  if ← pathExists self.path then
    let existing ← readWalletSeed format self.path
    if existing ≠ seed then throw (.refusingToReplace self.path)
    else return ()
  else writeWalletSeed format self.path seed

def store (V : Type) (self : FileCashuWalletSeedStore) : SeedStore V where
  loadSeed := self.loadSeed format
  storeSeed := self.storeSeed format

end FileCashuWalletSeedStore

def walletLockPath (dataDir : Path) : Path := cashuWalletDir dataDir ++ ["wallet.lock"]

def acquireWalletWriterLock (dataDir : Path) : SeedM V Unit := do
  context "failed to open Cashu wallet lock" (osCall fun d => d.create (walletLockPath dataDir))
  onError (fun e => if e = .stopped then .stopped else .alreadyInUse (cashuWalletDir dataDir))
    osQuery

structure ResolvedWalletSeed where
  seed : Seed
  removeLegacyAfterDatabaseOpen : Bool
  deriving DecidableEq, Repr

def cashuWalletDatabaseFiles (dataDir : Path) : List Path :=
  ["wallet.sqlite", "wallet.sqlite-wal", "wallet.sqlite-shm", "wallet.sqlite-journal"].map
    fun name => cashuWalletDir dataDir ++ [name]

def cashuWalletDatabaseExists (dataDir : Path) : SeedM V Bool :=
  peek fun d => (cashuWalletDatabaseFiles dataDir).any fun path => (d.files path).isSome

/-- Store a seed and check that the store gives it back. -/
def storeVerified (store : SeedStore V) (seed : Seed) (storing verifying : String) :
    SeedM V Unit := do
  context storing (store.storeSeed seed)
  let verified ← context verifying store.loadSeed
  if verified ≠ some seed then throw .notPreserved
  else return ()

/-- The legacy seed file, when it is treated as a migration source. -/
def loadLegacySeed (dataDir : Path) (migrateLegacySeed : Bool) : SeedM V (Option Seed) := do
  if migrateLegacySeed && (← pathExists (cashuWalletSeedPath dataDir)) then
    return some (← context "failed to read the legacy Cashu wallet seed"
      (readWalletSeed format (cashuWalletSeedPath dataDir)))
  else return none

/-- Resolve one wallet seed without ever generating over an existing database. `fresh` is what
the random generator would produce. -/
def resolveWalletSeed (dataDir : Path) (store : SeedStore V) (migrateLegacySeed : Bool)
    (fresh : Seed) : SeedM V ResolvedWalletSeed := do
  let stored ← context "failed to load the Cashu wallet seed from secure storage" store.loadSeed
  match stored, ← loadLegacySeed format dataDir migrateLegacySeed with
  | some stored, some legacy =>
    if stored ≠ legacy then throw (.doesNotMatch (cashuWalletSeedPath dataDir))
    else return ⟨stored, true⟩
  | some stored, none => return ⟨stored, false⟩
  | none, some legacy => do
    storeVerified store legacy
      "failed to migrate the Cashu wallet seed into secure storage"
      "failed to verify the migrated Cashu wallet seed"
    return ⟨legacy, true⟩
  | none, none => do
    if ← cashuWalletDatabaseExists dataDir then
      throw (.seedMissing (cashuWalletDbPath dataDir))
    else
      storeVerified store fresh "failed to store a new Cashu wallet seed"
        "failed to verify the new Cashu wallet seed"
      return ⟨fresh, false⟩

def finalizeLegacySeedMigration (dataDir : Path) (resolved : ResolvedWalletSeed) :
    SeedM V Unit := do
  if resolved.removeLegacyAfterDatabaseOpen then
    context "failed to remove migrated Cashu wallet seed"
      (removeFile (cashuWalletSeedPath dataDir))
  else return ()

structure CashuWalletService where
  dataDir : Path
  seed : Seed
  deriving DecidableEq, Repr

/-- `WalletSqliteDatabase::new`. Of the database this crate only sees that its file is there. -/
def openDatabase (dataDir : Path) : SeedM V Unit :=
  osCall fun d => d.write (cashuWalletDbPath dataDir) "SQLite format 3"

namespace CashuWalletService

def openWith (dataDir : Path) (store : SeedStore V) (migrateLegacySeed : Bool) (fresh : Seed) :
    SeedM V CashuWalletService := do
  context "failed to create the Cashu wallet directory" osQuery
  acquireWalletWriterLock dataDir
  let resolved ← resolveWalletSeed format dataDir store migrateLegacySeed fresh
  context "failed to open Cashu wallet database" (openDatabase dataDir)
  context "failed to build Cashu wallet repository" osQuery
  finalizeLegacySeedMigration dataDir resolved
  return ⟨dataDir, resolved.seed⟩

def openWithSeedStore (dataDir : Path) (store : SeedStore V) (fresh : Seed) :
    SeedM V CashuWalletService :=
  CashuWalletService.openWith format dataDir store true fresh

def openFileBacked (dataDir : Path) (fresh : Seed) : SeedM V CashuWalletService :=
  CashuWalletService.openWith format dataDir
    ((FileCashuWalletSeedStore.forDataDir dataDir).store format V) false fresh

end CashuWalletService
end CashuService

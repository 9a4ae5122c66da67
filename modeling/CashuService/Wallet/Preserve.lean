import CashuService.Base.Relocation
import CashuService.Wallet.SeedSafety
set_option autoImplicit false

namespace CashuService

/-! `persistence.rs`: the database of a wallet is moved away, file by file. -/

inductive PreserveError where
  | seed (cause : SeedError)
  | noFileName
  | moveFailed (source : Path) (moveError : String)
  | rollbackFailed (source : Path) (moveError : String) (rollbackErrors : List (Path × String))
  deriving DecidableEq, Repr

abbrev PreserveError.stopped : PreserveError := .seed .stopped

abbrev PreserveM (V : Type) := EStateM PreserveError (Process Unit (Disk V))

variable {V : Type}

def onSeed {α : Type} (x : SeedM V α) : PreserveM V α := fun p =>
  match x p with
  | .ok a p' => .ok a p'
  | .error e p' => .error (.seed e) p'

def Disk.relocate (self : Disk V) (source destination : Path) : Disk V :=
  { self with files := CashuService.relocate self.files source destination }

/-- `fs::rename`, with its result. -/
def renameFile (source destination : Path) : PreserveM V (Except String Unit) := do
  if ← peek fun d => (d.files source).isSome then
    tryCall .stopped (fun _ d => d.relocate source destination) fun n d =>
      if n = 0 then d else d.relocate source destination
  else return .error "No such file or directory"

def rollBack : List (Path × Path) → PreserveM V (List (Path × String))
  | [] => return []
  | (source, destination) :: rest => do
    match ← renameFile destination source with
    | .ok () => rollBack rest
    | .error message => return (source, message) :: (← rollBack rest)

/-- `fs::remove_dir`, whose result is not looked at. Of a directory only its files are modelled. -/
def removeDir : PreserveM V Unit := do
  let _ ← tryCall .stopped (fun _ d => d) fun _ d => d

def moveFiles (recoveryDir : Path) : List Path → List (Path × Path) → PreserveM V Unit
  | [], _ => return ()
  | source :: rest, moved => do
    match source.getLast? with
    | none => throw .noFileName
    | some fileName =>
      let destination := recoveryDir ++ [fileName]
      match ← renameFile source destination with
      | .ok () => moveFiles recoveryDir rest (moved ++ [(source, destination)])
      | .error moveError =>
        let rollbackErrors ← rollBack moved.reverse
        removeDir
        if rollbackErrors = [] then throw (.moveFailed source moveError)
        else throw (.rollbackFailed source moveError rollbackErrors)

def walletRecoveryDir (dataDir : Path) (uuid : String) : Path :=
  cashuWalletDir dataDir ++ ["recovery", uuid]

/-- `preserve_cashu_wallet_database`, where `uuid` is what `Uuid::new_v4` would produce. -/
def preserveCashuWalletDatabase (dataDir : Path) (uuid : String) : PreserveM V (Option Path) := do
  onSeed (context "failed to create the Cashu wallet directory" osQuery)
  onSeed (acquireWalletWriterLock dataDir)
  let existing ← peek fun d =>
    (cashuWalletDatabaseFiles dataDir).filter fun path => (d.files path).isSome
  if existing = [] then return none
  else
    let recoveryDir := walletRecoveryDir dataDir uuid
    onSeed (context "failed to create Cashu wallet recovery directory" osQuery)
    moveFiles recoveryDir existing []
    return some recoveryDir

end CashuService

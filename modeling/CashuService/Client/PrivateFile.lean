import CashuService.Base.FileSystem
import CashuService.Wallet.Seed
set_option autoImplicit false

namespace CashuService

/-! `private_file.rs`: files for the eyes of their owner alone. To give a file its owner and mode is
a call that may fail; owners and modes themselves are not modelled. -/

abbrev PrivateM (ι δ : Type) := FileM Path String ι δ

structure PrivateFile where
  inode : Nat
  content : String
  deriving DecidableEq, Repr

def Path.display (path : Path) : String := "/".intercalate path

section

variable {ι δ : Type}

def ensureRegularNofollow (node : Node String) (path : Path) : PrivateM ι δ PrivateFile := do
  mayFail
  match node with
  | .regular inode content => return ⟨inode, content⟩
  | _ => throw (.invalidData s!"private state {path.display} is not a regular file")

def openRegularNofollowWithAccess (path : Path) (writable : Bool) : PrivateM ι δ PrivateFile := do
  let node ← openNofollow path
  if writable ∧ node = .directory then throw (.other "Is a directory")
  else ensureRegularNofollow node path

def openRegularNofollow (path : Path) : PrivateM ι δ PrivateFile :=
  openRegularNofollowWithAccess path false

def openRegularNofollowWritable (path : Path) : PrivateM ι δ PrivateFile :=
  openRegularNofollowWithAccess path true

def secureUnixFile : PrivateM ι δ Unit := mayFail

def readPrivateRegularToString (path : Path) : PrivateM ι δ String := do
  let file ← openRegularNofollow path
  secureUnixFile
  mayFail
  return file.content

/-- The owner of the file that is there, or of its directory. -/
def preferredNonRootOwner (path : Path) : PrivateM ι δ Unit := do
  match ← caught (openRegularNofollow path) with
  | .ok _ => mayFail
  | .error .notFound => mayFail
  | .error e => throw e

/-- `create_dir_all`, of the directories from the outermost one on. -/
def makeDirectories : List Path → PrivateM ι δ Unit
  | [] => return ()
  | path :: paths => do
    makeDirectory path
    makeDirectories paths

def createDirAll (path : Path) : PrivateM ι δ Unit := makeDirectories path.inits.tail

def temporaryPath (parent : Path) (name : String) : Path := parent ++ [".cashu-private-" ++ name]

def persist (temporary : TemporaryFile Path) (path : Path) (replace : Bool) :
    PrivateM ι δ Bool := do
  if replace then
    rename temporary.path path
    return true
  else
    match ← caught (link temporary.path path) with
    | .ok _ =>
      let _ : Except IoError Unit ← caught (unlink temporary.path)
      return true
    | .error .alreadyExists => return false
    | .error e => throw e

/-- The end of a temporary file that has not got its path, also where it cannot be removed. -/
def dropTemporary (temporary : TemporaryFile Path) : PrivateM ι δ Unit := do
  let _ : Except IoError Unit ← caught (unlink temporary.path)

def writeAtomicPrivateInner (path : Path) (content : String) (replace : Bool) :
    PrivateM ι δ Bool := do
  let parent := path.dropLast
  createDirAll parent
  preferredNonRootOwner path
  let temporary ← createTemporary (temporaryPath parent) ""
  let result : Except IoError Bool ← caught do
    writeTemporary temporary content
    secureUnixFile
    mayFail
    persist temporary path replace
  match result with
  | .ok true =>
    mayFail
    mayFail
    return true
  | .ok false =>
    dropTemporary temporary
    return false
  | .error e =>
    dropTemporary temporary
    throw e

def writeAtomicPrivateFile (path : Path) (content : String) : PrivateM ι δ Unit := do
  let _ ← writeAtomicPrivateInner path content true

def createAtomicPrivate (path : Path) (content : String) : PrivateM ι δ Bool :=
  writeAtomicPrivateInner path content false

/-- The loop of `open_private_lock_file`, for as many rounds as its caller waits. -/
def openPrivateLockFileFrom (path : Path) : Nat → PrivateM ι δ PrivateFile
  | 0 => throw .unfinished
  | rounds + 1 => do
    match ← caught (openRegularNofollowWritable path) with
    | .ok file =>
      secureUnixFile
      return file
    | .error .notFound =>
      let _ ← createAtomicPrivate path ""
      openPrivateLockFileFrom path rounds
    | .error e => throw e

def openPrivateLockFile (path : Path) (rounds : Nat) : PrivateM ι δ PrivateFile := do
  createDirAll path.dropLast
  openPrivateLockFileFrom path rounds

variable {γ : Type} {P : Protocol ι (FileSystem Path String ι) γ} {i : ι}
  {w : FileSystem Path String ι × γ} {A B : FileSystem Path String ι × γ → Prop} {path : Path}
  {content : String}

def Remains (P : Protocol ι (FileSystem Path String ι) γ) (i : ι)
    (A : FileSystem Path String ι × γ → Prop) (path : Path) : Prop :=
  ∀ node, P.Stable i fun w => A w ∧ w.1.entries path = some node

def NotThere (A : FileSystem Path String ι × γ → Prop) (path : Path) (e : IoError)
    (w : FileSystem Path String ι × γ) : Prop :=
  e ≠ .unfinished ∧ A w ∧ (e = .notFound → w.1.entries path = none)

theorem open_tries {writable : Bool} (hstable : P.Stable i A) (hremains : Remains P i A path)
    (ha : A w) :
    P.Tries i (openRegularNofollowWithAccess path writable : PrivateM ι δ PrivateFile) w
      (NotThere A path)
      fun file w => A w ∧ w.1.entries path = some (.regular file.inode file.content) := by
  refine .seq (openNofollow_tries hstable ha) fun node w' hnode => ?_
  refine .ite (fun _ => .throw ⟨by simp, hnode.1, by simp⟩) fun _ => ?_
  refine .seq (mayFail_tries (hremains node) hnode fun message w h => ⟨by simp, h.1, by simp⟩) ?_
  intro _ w'' hnode
  cases node with
  | regular inode content => exact .pure hnode
  | _ => exact .throw ⟨by simp, hnode.1, by simp⟩

theorem readPrivate_tries (hstable : P.Stable i A) (hremains : Remains P i A path) (ha : A w) :
    P.Tries i (readPrivateRegularToString path : PrivateM ι δ String) w (NotThere A path)
      fun content w => A w ∧ ∃ inode, w.1.entries path = some (.regular inode content) := by
  refine .seq (open_tries hstable hremains ha) fun file w₁ hfile => ?_
  have hmayFail : ∀ {w}, A w ∧ w.1.entries path = some (.regular file.inode file.content) →
      P.Tries i (mayFail : PrivateM ι δ Unit) w (NotThere A path)
        fun _ w => A w ∧ w.1.entries path = some (.regular file.inode file.content) :=
    fun h => mayFail_tries (hremains _) h fun _ _ h => ⟨by simp, h.1, by simp⟩
  refine .seq (hmayFail hfile) fun _ w₂ hfile => ?_
  refine .seq (hmayFail hfile) fun _ w₃ hfile => ?_
  exact .pure ⟨hfile.1, file.inode, hfile.2⟩

def Replaceable (entry : Option (Node String)) : Prop :=
  ∀ node, entry = some node → node.isRegular = true

theorem Replaceable.noDirectory {entry : Option (Node String)} (h : Replaceable entry) :
    entry.any Node.isDirectory = false := by
  cases entry with
  | none => rfl
  | some node =>
    have hregular := h node rfl
    cases node <;> simp_all [Node.isRegular, Node.isDirectory]

theorem preferredNonRootOwner_tries (hstable : P.Stable i A)
    (hentry : P.Stable i fun w => A w ∧ Replaceable (w.1.entries path))
    (hremains : Remains P i A path) (ha : A w) :
    P.Tries i (preferredNonRootOwner path : PrivateM ι δ Unit) w
      (fun e w => e ≠ .unfinished ∧ A w) fun _ w => A w ∧ Replaceable (w.1.entries path) := by
  have hafter : ∀ {w}, A w ∧ Replaceable (w.1.entries path) →
      P.Tries i (mayFail : PrivateM ι δ Unit) w (fun e w => e ≠ .unfinished ∧ A w)
        fun _ w => A w ∧ Replaceable (w.1.entries path) :=
    fun h => mayFail_tries hentry h fun _ _ h => ⟨by simp, h.1⟩
  have hopen : P.Tries i (caught (openRegularNofollow path) :
    PrivateM ι δ (Except IoError PrivateFile))
      w (fun e w => e ≠ .unfinished ∧ A w) (Protocol.outcomes (NotThere A path) fun file w =>
        A w ∧ w.1.entries path = some (.regular file.inode file.content)) :=
    .caught (open_tries hstable hremains ha)
  refine .seq hopen fun r w' hr => ?_
  cases r with
  | ok file => exact hafter ⟨hr.1, fun node hnode => by
    simp_all [Node.isRegular, Protocol.outcomes]⟩
  | error e =>
    cases e with
    | notFound =>
      have hnone := hr.2.2 rfl
      exact hafter ⟨hr.2.1, fun node hnode => by simp_all⟩
    | _ => exact .throw ⟨hr.1, hr.2.1⟩

def Temporary (parent path : Path) : Prop := ∃ name, path = temporaryPath parent name

/-- A process may make the directory with those on the way to it, and do what it likes to its own
temporary files there. `mine` tells which these are. -/
structure Workshop (P : Protocol ι (FileSystem Path String ι) γ) (i : ι) (parent : Path)
    (mine : Path → FileSystem Path String ι × γ → Prop)
    (A : FileSystem Path String ι × γ → Prop) : Prop where
  stable : P.Stable i A
  held : ∀ path node, P.Stable i fun w => A w ∧ mine path w ∧ w.1.entries path = some node
  directory : ∀ w path, P.inv w → A w → path <+: parent → w.1.entries path = none →
    ∃ g, P.inv (w.1.put path .directory, g) ∧ P.guar i w (w.1.put path .directory, g) ∧
      A (w.1.put path .directory, g)
  create : ∀ w path, P.inv w → A w → Temporary parent path → w.1.entries path = none →
    ∃ g, P.inv (w.1.create path "", g) ∧ P.guar i w (w.1.create path "", g) ∧
      A (w.1.create path "", g) ∧ mine path (w.1.create path "", g)
  write : ∀ w path inode content, P.inv w → A w → Temporary parent path → mine path w →
    ∃ g, P.inv (w.1.put path (.regular inode content), g) ∧
      P.guar i w (w.1.put path (.regular inode content), g) ∧
      A (w.1.put path (.regular inode content), g) ∧
      mine path (w.1.put path (.regular inode content), g)
  remove : ∀ w path, P.inv w → A w → Temporary parent path → mine path w →
    ∃ g, P.inv (w.1.remove path, g) ∧ P.guar i w (w.1.remove path, g) ∧ A (w.1.remove path, g)

def Aside (parent path : Path) : Prop := ¬path <+: parent ∧ ¬Temporary parent path

namespace Workshop

variable {parent : Path} {mine : Path → FileSystem Path String ι × γ → Prop}

theorem entry {R : Option (Node String) → Prop} (h : Workshop P i parent mine A)
    (haside : Aside parent path) (hstable : P.Stable i fun w => A w ∧ R (w.1.entries path)) :
    Workshop P i parent mine fun w => A w ∧ R (w.1.entries path) where
  stable := hstable
  held path' node := by
    have hheld := h.held path' node
    exact fun j hj u v hu hv hguar ⟨ha, hmine⟩ =>
      have ha' := hstable j hj u v hu hv hguar ha
      have hheld' := hheld j hj u v hu hv hguar ⟨ha.1, hmine⟩
      ⟨ha', hheld'.2⟩
  directory w path' hinv ha hpath hnone := by
    obtain ⟨g, hinv', hguar, ha'⟩ := h.directory w path' hinv ha.1 hpath hnone
    have hne : path ≠ path' := by
      rintro rfl
      exact haside.1 hpath
    exact ⟨g, hinv', hguar, ha', by simpa only [FileSystem.put_entries_ne _ _ hne] using ha.2⟩
  create w path' hinv ha hpath hnone := by
    obtain ⟨g, hinv', hguar, ha', hmine⟩ := h.create w path' hinv ha.1 hpath hnone
    have hne : path ≠ path' := by
      rintro rfl
      exact haside.2 hpath
    refine ⟨g, hinv', hguar, ⟨ha', ?_⟩, hmine⟩
    simpa only [FileSystem.create, FileSystem.put_entries_ne _ _ hne] using ha.2
  write w path' inode content hinv ha hpath hmine := by
    obtain ⟨g, hinv', hguar, ha', hmine'⟩ := h.write w path' inode content hinv ha.1 hpath hmine
    have hne : path ≠ path' := by
      rintro rfl
      exact haside.2 hpath
    exact ⟨g, hinv', hguar, ⟨ha', by simpa only [FileSystem.put_entries_ne _ _ hne] using ha.2⟩,
      hmine'⟩
  remove w path' hinv ha hpath hmine := by
    obtain ⟨g, hinv', hguar, ha'⟩ := h.remove w path' hinv ha.1 hpath hmine
    have hne : path ≠ path' := by
      rintro rfl
      exact haside.2 hpath
    exact ⟨g, hinv', hguar, ha', by simpa only [FileSystem.remove_entries_ne _ hne] using ha.2⟩

theorem found (h : Workshop P i parent mine A) (haside : Aside parent path)
    (hremains : Remains P i A path) :
    Workshop P i parent mine fun w => A w ∧ ∃ node, w.1.entries path = some node := by
  refine h.entry (R := fun entry => ∃ node, entry = some node) haside ?_
  rintro j hj u v hu hv hguar ⟨ha, node, hnode⟩
  have hkept := hremains node j hj u v hu hv hguar ⟨ha, hnode⟩
  exact ⟨hkept.1, node, hkept.2⟩

theorem makeDirectories {paths : List Path} (h : Workshop P i parent mine A)
    (hpaths : ∀ path ∈ paths, path <+: parent) (ha : A w) :
    P.Tries i (makeDirectories paths : PrivateM ι δ Unit) w (fun e w => e ≠ .unfinished ∧ A w)
      fun _ => A := by
  induction paths generalizing w with
  | nil => exact .pure ha
  | cons path paths ih =>
    refine .seq (makeDirectory_tries h.stable ha fun w' hinv ha' hnone => ?_) fun _ w' ha' => ?_
    · exact h.directory w' path hinv ha' (hpaths path List.mem_cons_self) hnone
    · exact ih (fun path hpath => hpaths path (List.mem_cons_of_mem _ hpath)) ha'

theorem createDirAll (h : Workshop P i parent mine A) (ha : A w) :
    P.Tries i (createDirAll parent : PrivateM ι δ Unit) w (fun e w => e ≠ .unfinished ∧ A w)
      fun _ => A :=
  h.makeDirectories (fun _ hpath => (List.mem_inits _ _).mp (List.mem_of_mem_tail hpath)) ha

def Holds (parent : Path) (mine : Path → FileSystem Path String ι × γ → Prop)
    (A : FileSystem Path String ι × γ → Prop) (path : Path) (node : Node String)
    (w : FileSystem Path String ι × γ) : Prop :=
  Temporary parent path ∧ A w ∧ mine path w ∧ w.1.entries path = some node

theorem holds_stable {node : Node String} (h : Workshop P i parent mine A) :
    P.Stable i (Holds parent mine A path node) :=
  fun j hj u v hu hv hguar hheld =>
    ⟨hheld.1, h.held path node j hj u v hu hv hguar hheld.2⟩

theorem temporary (h : Workshop P i parent mine A) (ha : A w) :
    P.Tries i (createTemporary (temporaryPath parent) "" : PrivateM ι δ (TemporaryFile Path)) w
      (fun e w => e ≠ .unfinished ∧ A w)
      fun file w => Holds parent mine A file.path (.regular file.inode "") w := by
  refine createTemporary_tries h.stable ha fun w' name hinv ha' hnone => ?_
  obtain ⟨g, hinv', hguar, ha'', hmine⟩ := h.create w' _ hinv ha' ⟨name, rfl⟩ hnone
  exact ⟨g, hinv', hguar, ⟨name, rfl⟩, ha'', hmine, by simp [FileSystem.create]⟩

theorem written {file : TemporaryFile Path} {node : Node String}
    (h : Workshop P i parent mine A) (hheld : Holds parent mine A file.path node w) :
    P.Tries i (writeTemporary file content : PrivateM ι δ Unit) w
      (fun e w => e ≠ .unfinished ∧ Holds parent mine A file.path node w)
      fun _ w => Holds parent mine A file.path (.regular file.inode content) w := by
  refine writeTemporary_tries h.holds_stable hheld fun w' hinv hheld' => ?_
  obtain ⟨hpath, ha, hmine, -⟩ := hheld'
  obtain ⟨g, hinv', hguar, ha', hmine'⟩ := h.write w' _ file.inode content hinv ha hpath hmine
  exact ⟨g, hinv', hguar, hpath, ha', hmine', FileSystem.put_entries_self ..⟩

theorem unlinked {err : IoError → FileSystem Path String ι × γ → Prop}
    (h : Workshop P i parent mine A) (hheld : ∃ node, Holds parent mine A path node w) :
    P.Tries i (caught (unlink path) : PrivateM ι δ (Except IoError Unit)) w err fun _ => A := by
  refine .caught ((unlink_tries (.exists fun node => h.holds_stable) hheld
    (fun w' h => h.choose_spec.2.1) fun w' hinv h' => ?_).imp (fun _ _ h => h) fun _ _ h => h)
  obtain ⟨node, hpath, ha, hmine, -⟩ := h'
  exact h.remove w' _ hinv ha hpath hmine

theorem dropped {file : TemporaryFile Path} {err : IoError → FileSystem Path String ι × γ → Prop}
    (h : Workshop P i parent mine A) (hheld : ∃ node, Holds parent mine A file.path node w) :
    P.Tries i (dropTemporary file : PrivateM ι δ Unit) w err fun _ => A :=
  .seq (h.unlinked hheld) fun _ _ h => .pure h

end Workshop

theorem mayFail_after {B : FileSystem Path String ι × γ → Prop} (hstable : P.Stable i B)
    (hb : B w) :
    P.Tries i (mayFail : PrivateM ι δ Unit) w (fun e w => e ≠ .unfinished ∧ (A w ∨ B w))
      fun _ => B :=
  mayFail_tries hstable hb fun _ _ h => ⟨by simp, .inr h⟩

section

variable {mine : Path → FileSystem Path String ι × γ → Prop} {replace : Bool}
  {C : FileSystem Path String ι × γ → Prop}
  {D : TemporaryFile Path → FileSystem Path String ι × γ → Prop}

/-- What the file's way to its path leaves: it is there, or something else was. -/
def Persisted (B C : FileSystem Path String ι × γ → Prop) (persisted : Bool)
    (w : FileSystem Path String ι × γ) : Prop :=
  if persisted then B w else C w

theorem writeAtomicPrivateInner_tries (hworkshop : Workshop P i path.dropLast mine A)
    (haside : Aside path.dropLast path)
    (hentry : P.Stable i fun w => A w ∧ Replaceable (w.1.entries path))
    (hremains : Remains P i A path) (hstableB : P.Stable i B)
    (hdrop : ∀ file w, D file w →
      P.Tries i (dropTemporary file : PrivateM ι δ Unit) w
        (fun e w => e ≠ .unfinished ∧ (A w ∨ B w)) fun _ => C)
    (ha : A w)
    (hpersist : ∀ file w, Workshop.Holds path.dropLast mine
        (fun w => A w ∧ Replaceable (w.1.entries path)) file.path (.regular file.inode content) w →
      P.Tries i (persist file path replace : PrivateM ι δ Bool) w
        (fun e w => e ≠ .unfinished ∧ ∃ node, Workshop.Holds path.dropLast mine A file.path node w)
        (Persisted B (D file))) :
    P.Tries i (writeAtomicPrivateInner path content replace : PrivateM ι δ Bool) w
      (fun e w => e ≠ .unfinished ∧ (A w ∨ B w)) (Persisted B C) := by
  have hreplaceable := hworkshop.entry haside hentry
  have hweaken : ∀ (e : IoError) w, e ≠ .unfinished ∧ A w → e ≠ .unfinished ∧ (A w ∨ B w) :=
    fun e w h => ⟨h.1, .inl h.2⟩
  refine .seq ((hworkshop.createDirAll ha).imp hweaken fun _ _ h => h) fun _ w₁ h₁ => ?_
  refine .seq ((preferredNonRootOwner_tries hworkshop.stable hentry hremains h₁).imp hweaken
    fun _ _ h => h) fun _ w₂ h₂ => ?_
  refine .seq ((hreplaceable.temporary h₂).imp (fun e w h => ⟨h.1, .inl h.2.1⟩) fun _ _ h => h)
    fun file w₃ h₃ => ?_
  have hlost : ∀ {node : Node String} (e : IoError) w, e ≠ .unfinished ∧
      Workshop.Holds path.dropLast mine (fun w => A w ∧ Replaceable (w.1.entries path)) file.path
        node w →
      e ≠ .unfinished ∧ ∃ node, Workshop.Holds path.dropLast mine A file.path node w :=
    fun e w h => ⟨h.1, _, h.2.1, h.2.2.1.1, h.2.2.2⟩
  have hfill : P.Tries i (caught (do
      writeTemporary file content; secureUnixFile; mayFail; persist file path replace) :
        PrivateM ι δ (Except IoError Bool)) w₃ (fun e w => e ≠ .unfinished ∧ (A w ∨ B w))
      (Protocol.outcomes (fun e w => e ≠ .unfinished ∧
          ∃ node, Workshop.Holds path.dropLast mine A file.path node w)
        (Persisted B (D file))) := by
    have hmayFail : ∀ {w}, Workshop.Holds path.dropLast mine
          (fun w => A w ∧ Replaceable (w.1.entries path)) file.path
          (.regular file.inode content) w →
        P.Tries i (mayFail : PrivateM ι δ Unit) w (fun e w => e ≠ .unfinished ∧
          ∃ node, Workshop.Holds path.dropLast mine A file.path node w)
          fun _ w => Workshop.Holds path.dropLast mine
            (fun w => A w ∧ Replaceable (w.1.entries path)) file.path
            (.regular file.inode content) w :=
      fun h => mayFail_tries hreplaceable.holds_stable h fun _ w h => hlost _ w ⟨by simp, h⟩
    refine .caught (.seq ((hreplaceable.written h₃).imp hlost fun _ _ h => h) fun _ w₄ h₄ => ?_)
    refine .seq (hmayFail h₄) fun _ w₅ h₅ => .seq (hmayFail h₅) fun _ w₆ h₆ => ?_
    exact hpersist file w₆ h₆
  refine .seq hfill fun r w₄ h₄ => ?_
  match r, h₄ with
  | .ok true, h₄ =>
    refine .seq (mayFail_after hstableB h₄) fun _ w₅ h₅ => ?_
    exact .seq (mayFail_after hstableB h₅) fun _ w₆ h₆ => .pure h₆
  | .ok false, h₄ => exact .seq (hdrop file w₄ h₄) fun _ w₅ h₅ => .pure h₅
  | .error e, h₄ =>
    exact .seq (hworkshop.dropped h₄.2) fun _ w₅ h₅ => .throw ⟨h₄.1, .inl h₅⟩

end

theorem writeAtomicPrivateFile_tries {mine : Path → FileSystem Path String ι × γ → Prop}
    (hworkshop : Workshop P i path.dropLast mine A) (haside : Aside path.dropLast path)
    (hentry : P.Stable i fun w => A w ∧ Replaceable (w.1.entries path))
    (hremains : Remains P i A path) (hstableB : P.Stable i B) (ha : A w)
    (hmove : ∀ w' source inode, P.inv w' → A w' → Temporary path.dropLast source → mine source w' →
      Replaceable (w'.1.entries path) →
      ∃ g, P.inv (w'.1.move source path (.regular inode content), g) ∧
        P.guar i w' (w'.1.move source path (.regular inode content), g) ∧
        B (w'.1.move source path (.regular inode content), g)) :
    P.Tries i (writeAtomicPrivateFile path content : PrivateM ι δ Unit) w
      (fun e w => e ≠ .unfinished ∧ (A w ∨ B w)) fun _ => B := by
  refine .seq (writeAtomicPrivateInner_tries (C := fun _ => False) (D := fun _ _ => False)
    hworkshop haside hentry hremains hstableB (fun _ _ h => h.elim) ha fun file w₁ h₁ => ?_)
    fun persisted w₂ h₂ => ?_
  · have hrename : P.Tries i (rename file.path path : PrivateM ι δ Unit) w₁
        (fun e w => e ≠ .unfinished ∧ ∃ node,
          Workshop.Holds path.dropLast mine A file.path node w) fun _ => B := by
      refine (rename_tries (hworkshop.entry haside hentry).holds_stable h₁
        (fun w' h' => h'.2.2.2) fun w' hinv h' => ?_).imp
        (fun e w h => ⟨h.1, _, h.2.1, h.2.2.1.1, h.2.2.2⟩) fun _ _ h => h
      obtain ⟨hpath, ⟨ha', hreplaceable⟩, hmine, -⟩ := h'
      exact ⟨hreplaceable.noDirectory, hmove w' _ _ hinv ha' hpath hmine hreplaceable⟩
    exact .seq hrename fun _ w₂ h₂ => .pure h₂
  · cases persisted with
    | true => exact .pure h₂
    | false => exact h₂.elim

def CreatedOrFound (A B : FileSystem Path String ι × γ → Prop) (path : Path) (created : Bool)
    (w : FileSystem Path String ι × γ) : Prop :=
  Persisted B (fun w => A w ∧ ∃ node, w.1.entries path = some node) created w

theorem createAtomicPrivate_tries {mine : Path → FileSystem Path String ι × γ → Prop}
    (hworkshop : Workshop P i path.dropLast mine A) (haside : Aside path.dropLast path)
    (hentry : P.Stable i fun w => A w ∧ Replaceable (w.1.entries path))
    (hremains : Remains P i A path) (hworkshopB : Workshop P i path.dropLast mine B) (ha : A w)
    (hput : ∀ w' source inode, P.inv w' → A w' → mine source w' → w'.1.entries path = none →
      ∃ g, P.inv (w'.1.put path (.regular inode content), g) ∧
        P.guar i w' (w'.1.put path (.regular inode content), g) ∧
        B (w'.1.put path (.regular inode content), g) ∧
        mine source (w'.1.put path (.regular inode content), g)) :
    P.Tries i (createAtomicPrivate path content : PrivateM ι δ Bool) w
      (fun e w => e ≠ .unfinished ∧ (A w ∨ B w)) (CreatedOrFound A B path) := by
  have hfound := hworkshop.found haside hremains
  refine writeAtomicPrivateInner_tries
    (D := fun file w => ∃ node, Workshop.Holds path.dropLast mine
      (fun w => A w ∧ ∃ node, w.1.entries path = some node) file.path node w)
    hworkshop haside hentry hremains hworkshopB.stable (fun _ _ h => hfound.dropped h) ha
    fun file w₁ h₁ => ?_
  have hheld : Workshop.Holds path.dropLast mine A file.path (.regular file.inode content) w₁ :=
    ⟨h₁.1, h₁.2.1.1, h₁.2.2⟩
  have hlink : P.Tries i (caught (link file.path path) : PrivateM ι δ (Except IoError Unit)) w₁
      (fun e w => e ≠ .unfinished ∧ ∃ node, Workshop.Holds path.dropLast mine A file.path node w)
      (Protocol.outcomes (fun e w => e ≠ .unfinished ∧
          Workshop.Holds path.dropLast mine A file.path (.regular file.inode content) w ∧
          (e = .alreadyExists → ∃ node, w.1.entries path = some node))
        fun _ w => ∃ node, Workshop.Holds path.dropLast mine B file.path node w) := by
    refine .caught (link_tries hworkshop.holds_stable hheld (fun w' h' => h'.2.2.2)
      fun w' hinv h' hnone => ?_)
    obtain ⟨hpath, ha', hmine, hnode⟩ := h'
    obtain ⟨g, hinv', hguar, hb, hmine'⟩ := hput w' file.path file.inode hinv ha' hmine hnone
    have hne : file.path ≠ path := by
      intro heq
      rw [heq, hnone] at hnode
      cases hnode
    refine ⟨g, hinv', hguar, .regular file.inode content, hpath, hb, hmine', ?_⟩
    exact (FileSystem.put_entries_ne _ _ hne).trans hnode
  refine .seq hlink fun r w₂ h₂ => ?_
  match r, h₂ with
  | .ok _, h₂ =>
    exact .seq (hworkshopB.unlinked h₂) fun _ w₃ h₃ => .pure h₃
  | .error .alreadyExists, ⟨_, h₂, hnode⟩ => exact .pure ⟨_, h₂.1, ⟨h₂.2.1, hnode rfl⟩, h₂.2.2⟩
  | .error .notFound, h₂ => exact .throw ⟨by simp, _, h₂.2.1⟩
  | .error .wouldBlock, h₂ => exact .throw ⟨by simp, _, h₂.2.1⟩
  | .error (.invalidData _), h₂ => exact .throw ⟨by simp, _, h₂.2.1⟩
  | .error (.other _), h₂ => exact .throw ⟨by simp, _, h₂.2.1⟩
  | .error .unfinished, h₂ => exact absurd rfl h₂.1

theorem openPrivateLockFileFrom_there {rounds : Nat} {node : Node String}
    (hremains : Remains P i A path) (ha : A w ∧ w.1.entries path = some node) :
    P.Tries i (openPrivateLockFileFrom path (rounds + 1) : PrivateM ι δ PrivateFile) w
      (fun e w => e ≠ .unfinished ∧ A w)
      fun file w => A w ∧ w.1.entries path = some (.regular file.inode file.content) := by
  have hstable := hremains node
  have hremains' : Remains P i (fun w => A w ∧ w.1.entries path = some node) path :=
    fun node' j hj u v hu hv hguar h => ⟨hstable j hj u v hu hv hguar h.1,
      (hremains node' j hj u v hu hv hguar ⟨h.1.1, h.2⟩).2⟩
  have hopen : P.Tries i
      (caught (openRegularNofollowWritable path) : PrivateM ι δ (Except IoError PrivateFile)) w
      (fun e w => e ≠ .unfinished ∧ A w)
      (Protocol.outcomes (NotThere (fun w => A w ∧ w.1.entries path = some node) path)
        fun file w => (A w ∧ w.1.entries path = some node) ∧
          w.1.entries path = some (.regular file.inode file.content)) :=
    .caught (open_tries hstable hremains' ha)
  refine .seq hopen fun r w₁ h₁ => ?_
  cases r with
  | ok file =>
    have hfile : A w₁ ∧ w₁.1.entries path = some (.regular file.inode file.content) :=
      ⟨h₁.1.1, h₁.2⟩
    refine .seq (mayFail_tries (hremains _) hfile fun _ _ h => ⟨by simp, h.1⟩) ?_
    exact fun _ w₂ h₂ => .pure h₂
  | error e =>
    cases e with
    | notFound =>
      have hnone := h₁.2.2 rfl
      rw [h₁.2.1.2] at hnone
      cases hnone
    | _ => exact .throw ⟨h₁.1, h₁.2.1.1⟩

theorem openPrivateLockFile_tries {mine : Path → FileSystem Path String ι × γ → Prop}
    {rounds : Nat} (hworkshop : Workshop P i path.dropLast mine A)
    (haside : Aside path.dropLast path)
    (hentry : P.Stable i fun w => A w ∧ Replaceable (w.1.entries path))
    (hremains : Remains P i A path) (ha : A w)
    (hput : ∀ w' source inode, P.inv w' → A w' → mine source w' → w'.1.entries path = none →
      ∃ g, P.inv (w'.1.put path (.regular inode ""), g) ∧
        P.guar i w' (w'.1.put path (.regular inode ""), g) ∧
        A (w'.1.put path (.regular inode ""), g) ∧
        mine source (w'.1.put path (.regular inode ""), g)) :
    P.Tries i (openPrivateLockFile path (rounds + 2) : PrivateM ι δ PrivateFile) w
      (fun e w => e ≠ .unfinished ∧ A w)
      fun file w => A w ∧ w.1.entries path = some (.regular file.inode file.content) := by
  refine .seq (hworkshop.createDirAll ha) fun _ w₁ h₁ => ?_
  have hopen : P.Tries i
      (caught (openRegularNofollowWritable path) : PrivateM ι δ (Except IoError PrivateFile)) w₁
      (fun e w => e ≠ .unfinished ∧ A w) (Protocol.outcomes (NotThere A path) fun file w =>
        A w ∧ w.1.entries path = some (.regular file.inode file.content)) :=
    .caught (open_tries hworkshop.stable hremains h₁)
  have hthere : Workshop P i path.dropLast mine fun w => A w ∧
      ∃ node, w.1.entries path = some node := hworkshop.found haside hremains
  refine .seq hopen fun r w₂ h₂ => ?_
  match r, h₂ with
  | .ok file, h₂ =>
    refine .seq (mayFail_tries (hremains _) h₂ fun _ _ h => ⟨by simp, h.1⟩) ?_
    exact fun _ w₃ h₃ => .pure h₃
  | .error .notFound, h₂ =>
    refine .seq (q := fun _ w => A w ∧ ∃ node, w.1.entries path = some node) ?_ ?_
    · refine (createAtomicPrivate_tries hworkshop haside hentry hremains hthere h₂.2.1
        fun w' source inode hinv h hmine hnone => ?_).imp ?_ ?_
      · obtain ⟨g, hg, hguar, ha', hmine'⟩ := hput w' source inode hinv h hmine hnone
        exact ⟨g, hg, hguar, ⟨ha', _, FileSystem.put_entries_self ..⟩, hmine'⟩
      · rintro e w ⟨he, h | ⟨h, -⟩⟩
        · exact ⟨he, h⟩
        · exact ⟨he, h⟩
      · intro created w h
        cases created with
        | true => exact h
        | false => exact h
    · rintro _ w₃ ⟨h₃, node, hnode⟩
      exact openPrivateLockFileFrom_there hremains ⟨h₃, hnode⟩
  | .error .alreadyExists, h₂ => exact .throw ⟨h₂.1, h₂.2.1⟩
  | .error .wouldBlock, h₂ => exact .throw ⟨h₂.1, h₂.2.1⟩
  | .error (.invalidData _), h₂ => exact .throw ⟨h₂.1, h₂.2.1⟩
  | .error (.other _), h₂ => exact .throw ⟨h₂.1, h₂.2.1⟩
  | .error .unfinished, h₂ => exact absurd rfl h₂.1

end
end CashuService

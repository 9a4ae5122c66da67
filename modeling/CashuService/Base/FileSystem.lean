import CashuService.Base.Threads
set_option autoImplicit false

namespace CashuService

/-! The calls of a file system, as steps of the threads that make them. -/

/-- What a path names. Only a temporary file is written in place, the others are replaced. -/
inductive Node (κ : Type) where
  | regular (inode : Nat) (content : κ)
  | symlink | directory | special
  deriving DecidableEq, Repr

def Node.isRegular {κ : Type} : Node κ → Bool
  | .regular _ _ => true
  | _ => false

def Node.isDirectory {κ : Type} : Node κ → Bool
  | .directory => true
  | _ => false

/-- The files, the next new one, and who has locked which of them. -/
structure FileSystem (π κ ι : Type) where
  entries : π → Option (Node κ)
  next : Nat
  locks : Nat → Option ι

inductive IoError where
  | notFound | alreadyExists | wouldBlock
  | invalidData (message : String)
  | other (message : String)
  /-- The caller has given up a loop. -/
  | unfinished
  deriving DecidableEq, Repr

def IoError.toString : IoError → String
  | .notFound => "No such file or directory"
  | .alreadyExists => "File exists"
  | .wouldBlock => "Resource temporarily unavailable"
  | .invalidData message => message
  | .other message => message
  | .unfinished => "unfinished"

/-- Whether a call fails, and what a source of random data and one of random names give. -/
structure Answer (δ : Type) where
  failure : Option String
  data : δ
  name : String

structure TemporaryFile (π : Type) where
  path : π
  inode : Nat
  deriving DecidableEq, Repr

section

variable {π κ ι δ γ α : Type}

abbrev FileM (π κ ι δ : Type) := ExceptT IoError (Thread (Answer δ) (FileSystem π κ ι))

/-- A call that fails has no effect. -/
def sysCall (effect : FileSystem π κ ι → Option (FileSystem π κ ι))
    (result : FileSystem π κ ι → Except IoError α) : FileM π κ ι δ α :=
  ExceptT.mk (Thread.atomic (fun answer fs => if answer.failure.isSome then some fs else effect fs)
    fun answer fs => match answer.failure with
      | some message => .error (.other message)
      | none => result fs)

namespace FileSystem

def release [DecidableEq ι] (i : ι) (fs : FileSystem π κ ι) : FileSystem π κ ι :=
  { fs with locks := fun inode => if fs.locks inode = some i then none else fs.locks inode }

def lock (i : ι) (inode : Nat) (fs : FileSystem π κ ι) : FileSystem π κ ι :=
  { fs with locks := Function.update fs.locks inode (some i) }

def unlock [DecidableEq ι] (i : ι) (inode : Nat) (fs : FileSystem π κ ι) : FileSystem π κ ι :=
  { fs with
    locks := Function.update fs.locks inode
      (if fs.locks inode = some i then none else fs.locks inode) }

variable [DecidableEq π]

def put (path : π) (node : Node κ) (fs : FileSystem π κ ι) : FileSystem π κ ι :=
  { fs with entries := Function.update fs.entries path (some node) }

def remove (path : π) (fs : FileSystem π κ ι) : FileSystem π κ ι :=
  { fs with entries := Function.update fs.entries path none }

def move (source path : π) (node : Node κ) (fs : FileSystem π κ ι) : FileSystem π κ ι :=
  (fs.put path node).remove source

def create (path : π) (content : κ) (fs : FileSystem π κ ι) : FileSystem π κ ι :=
  { fs.put path (.regular fs.next content) with next := fs.next + 1 }

@[simp] theorem put_entries_self (path : π) (node : Node κ) (fs : FileSystem π κ ι) :
    (fs.put path node).entries path = some node :=
  Function.update_self ..

@[simp] theorem put_entries_ne {path path' : π} (node : Node κ) (fs : FileSystem π κ ι)
    (h : path' ≠ path) : (fs.put path node).entries path' = fs.entries path' :=
  Function.update_of_ne h ..

@[simp] theorem remove_entries_self (path : π) (fs : FileSystem π κ ι) :
    (fs.remove path).entries path = none :=
  Function.update_self ..

@[simp] theorem remove_entries_ne {path path' : π} (fs : FileSystem π κ ι) (h : path' ≠ path) :
    (fs.remove path).entries path' = fs.entries path' :=
  Function.update_of_ne h ..

end FileSystem

/-- A call that may fail, and does nothing to what is modelled. -/
def mayFail : FileM π κ ι δ Unit := sysCall some fun _ => .ok ()

/-- `open` with `O_NOFOLLOW`. -/
def openNofollow (path : π) : FileM π κ ι δ (Node κ) :=
  sysCall some fun fs =>
    match fs.entries path with
    | none => .error .notFound
    | some .symlink => .error (.other "Too many levels of symbolic links")
    | some node => .ok node

section

variable [DecidableEq π]

/-- `mkdir` where there is no directory yet. A link is taken for one to a directory; where it is
not, the call fails. -/
def makeDirectory (path : π) : FileM π κ ι δ Unit :=
  sysCall (fun fs => some (if (fs.entries path).isSome then fs else fs.put path .directory))
    fun fs => match fs.entries path with
      | some (.regular _ _) => .error .alreadyExists
      | some .special => .error .alreadyExists
      | _ => .ok ()

/-- `open` with `O_EXCL` under a random name. One that is taken is drawn again. -/
def createTemporary (named : String → π) (content : κ) : FileM π κ ι δ (TemporaryFile π) :=
  ExceptT.mk (Thread.atomic
    (fun answer fs =>
      if answer.failure.isSome then some fs
      else if (fs.entries (named answer.name)).isSome then none
      else some (fs.create (named answer.name) content))
    fun answer fs => match answer.failure with
      | some message => .error (.other message)
      | none => .ok ⟨named answer.name, fs.next⟩)

/-- All of the content is written, or nothing. -/
def writeTemporary (file : TemporaryFile π) (content : κ) : FileM π κ ι δ Unit :=
  sysCall (fun fs => some (fs.put file.path (.regular file.inode content))) fun _ => .ok ()

def rename (source path : π) : FileM π κ ι δ Unit :=
  sysCall
    (fun fs => some (match fs.entries source with
      | some node => if (fs.entries path).any Node.isDirectory then fs else fs.move source path node
      | none => fs))
    fun fs => match fs.entries source with
      | some _ => if (fs.entries path).any Node.isDirectory then .error (.other "Is a directory")
        else .ok ()
      | none => .error .notFound

def link (source path : π) : FileM π κ ι δ Unit :=
  sysCall
    (fun fs => some (match fs.entries source with
      | some node => if (fs.entries path).isSome then fs else fs.put path node
      | none => fs))
    fun fs => match fs.entries source with
      | some _ => if (fs.entries path).isSome then .error .alreadyExists else .ok ()
      | none => .error .notFound

def unlink (path : π) : FileM π κ ι δ Unit :=
  sysCall (fun fs => some (fs.remove path)) fun fs =>
    if (fs.entries path).isSome then .ok () else .error .notFound

end

/-- `flock`, which waits until nobody else has locked the file. -/
def flock (i : ι) (inode : Nat) : FileM π κ ι δ Unit :=
  sysCall (fun fs => if (fs.locks inode).isSome then none else some (fs.lock i inode))
    fun _ => .ok ()

def tryFlock (i : ι) (inode : Nat) : FileM π κ ι δ Unit :=
  sysCall (fun fs => some (if (fs.locks inode).isSome then fs else fs.lock i inode))
    fun fs => if (fs.locks inode).isSome then .error .wouldBlock else .ok ()

def close {ε : Type} [DecidableEq ι] (i : ι) (inode : Nat) :
    ExceptT ε (Thread (Answer δ) (FileSystem π κ ι)) Unit :=
  ExceptT.mk (Thread.atomic (fun _ fs => some (fs.unlock i inode)) fun _ _ => .ok ())

variable {P : Protocol ι (FileSystem π κ ι) γ} {i : ι} {w : FileSystem π κ ι × γ}
  {A : FileSystem π κ ι × γ → Prop} {err : IoError → FileSystem π κ ι × γ → Prop}
  {ok : α → FileSystem π κ ι × γ → Prop}

theorem sysCall_tries {effect : FileSystem π κ ι → Option (FileSystem π κ ι)}
    {result : FileSystem π κ ι → Except IoError α} (hstable : P.Stable i A) (ha : A w)
    (hfails : ∀ message w', P.inv w' → A w' → err (.other message) w')
    (hdone : ∀ w' s, P.inv w' → A w' → effect w'.1 = some s →
      ∃ g, P.inv (s, g) ∧ P.guar i w' (s, g) ∧ Protocol.outcomes err ok (result w'.1) (s, g)) :
    P.Tries i (sysCall effect result : FileM π κ ι δ α) w err ok := by
  refine Protocol.Keeps.atomic fun w' hothers hinv answer s hs => ?_
  have ha' := hstable.others hothers ha
  cases hfailure : answer.failure with
  | some message =>
    simp only [hfailure, Option.isSome_some, if_true, Option.some.injEq] at hs
    subst hs
    exact ⟨w'.2, hinv, P.idle i w' hinv, hfails message w' hinv ha'⟩
  | none =>
    simp only [hfailure, Option.isSome_none, Bool.false_eq_true, if_false] at hs
    exact hdone w' s hinv ha' hs

theorem look_tries {result : FileSystem π κ ι → Except IoError α} (hstable : P.Stable i A)
    (ha : A w) (hfails : ∀ message w', P.inv w' → A w' → err (.other message) w')
    (hdone : ∀ w', P.inv w' → A w' → Protocol.outcomes err ok (result w'.1) w') :
    P.Tries i (sysCall some result : FileM π κ ι δ α) w err ok := by
  refine sysCall_tries hstable ha hfails fun w' s hinv ha' hs => ?_
  obtain rfl := Option.some.inj hs
  exact ⟨w'.2, hinv, P.idle i w' hinv, hdone w' hinv ha'⟩

theorem mayFail_tries (hstable : P.Stable i A) (ha : A w)
    (herr : ∀ message w', A w' → err (.other message) w') :
    P.Tries i (mayFail : FileM π κ ι δ Unit) w err fun _ => A :=
  look_tries hstable ha (fun message w' _ h => herr message w' h) fun _ _ h => h

theorem openNofollow_tries {path : π} (hstable : P.Stable i A) (ha : A w) :
    P.Tries i (openNofollow path : FileM π κ ι δ (Node κ)) w
      (fun e w => e ≠ .unfinished ∧ A w ∧ (e = .notFound → w.1.entries path = none))
      fun node w => A w ∧ w.1.entries path = some node := by
  refine look_tries hstable ha (fun _ _ _ h => ⟨by simp, h, by simp⟩) fun w' _ h => ?_
  cases hentry : w'.1.entries path with
  | none => exact ⟨by simp, h, fun _ => hentry⟩
  | some node =>
    cases node with
    | symlink => exact ⟨by simp, h, by simp⟩
    | regular inode content => exact ⟨h, hentry⟩
    | directory => exact ⟨h, hentry⟩
    | special => exact ⟨h, hentry⟩

section

variable [DecidableEq π] {B : FileSystem π κ ι × γ → Prop} {path source : π} {node : Node κ}
  {content : κ}

theorem makeDirectory_tries (hstable : P.Stable i A) (ha : A w)
    (hput : ∀ w', P.inv w' → A w' → w'.1.entries path = none →
      ∃ g, P.inv (w'.1.put path .directory, g) ∧ P.guar i w' (w'.1.put path .directory, g) ∧
        A (w'.1.put path .directory, g)) :
    P.Tries i (makeDirectory path : FileM π κ ι δ Unit) w (fun e w => e ≠ .unfinished ∧ A w)
      fun _ => A := by
  refine sysCall_tries hstable ha (fun _ _ _ h => ⟨by simp, h⟩) fun w' s hinv h hs => ?_
  cases hentry : w'.1.entries path with
  | none =>
    simp only [hentry, Option.isSome_none, Bool.false_eq_true, if_false, Option.some.injEq] at hs ⊢
    subst hs
    exact hput w' hinv h hentry
  | some node =>
    simp only [hentry, Option.isSome_some, if_true, Option.some.injEq] at hs ⊢
    subst hs
    refine ⟨w'.2, hinv, P.idle i w' hinv, ?_⟩
    cases node with
    | regular inode content => exact ⟨by simp, h⟩
    | special => exact ⟨by simp, h⟩
    | symlink => exact h
    | directory => exact h

theorem createTemporary_tries {named : String → π}
    {C : TemporaryFile π → FileSystem π κ ι × γ → Prop}
    (hstable : P.Stable i A) (ha : A w)
    (hcreate : ∀ w' name, P.inv w' → A w' → w'.1.entries (named name) = none →
      ∃ g, P.inv (w'.1.create (named name) content, g) ∧
        P.guar i w' (w'.1.create (named name) content, g) ∧
        C ⟨named name, w'.1.next⟩ (w'.1.create (named name) content, g)) :
    P.Tries i (createTemporary named content : FileM π κ ι δ (TemporaryFile π)) w
      (fun e w => e ≠ .unfinished ∧ A w) C := by
  refine Protocol.Keeps.atomic fun w' hothers hinv answer s hs => ?_
  have ha' := hstable.others hothers ha
  cases hfailure : answer.failure with
  | some message =>
    simp only [hfailure, Option.isSome_some, if_true, Option.some.injEq] at hs
    subst hs
    exact ⟨w'.2, hinv, P.idle i w' hinv, by simp, ha'⟩
  | none =>
    simp only [hfailure, Option.isSome_none, Bool.false_eq_true, if_false] at hs
    cases hentry : w'.1.entries (named answer.name) with
    | some node => simp [hentry] at hs
    | none =>
      simp only [hentry, Option.isSome_none, Bool.false_eq_true, if_false,
        Option.some.injEq] at hs
      subst hs
      exact hcreate w' answer.name hinv ha' hentry

theorem writeTemporary_tries {file : TemporaryFile π} (hstable : P.Stable i A) (ha : A w)
    (hput : ∀ w', P.inv w' → A w' →
      ∃ g, P.inv (w'.1.put file.path (.regular file.inode content), g) ∧
        P.guar i w' (w'.1.put file.path (.regular file.inode content), g) ∧
        B (w'.1.put file.path (.regular file.inode content), g)) :
    P.Tries i (writeTemporary file content : FileM π κ ι δ Unit) w
      (fun e w => e ≠ .unfinished ∧ A w) fun _ => B := by
  refine sysCall_tries hstable ha (fun _ _ _ h => ⟨by simp, h⟩) fun w' s hinv h hs => ?_
  obtain rfl := Option.some.inj hs
  exact hput w' hinv h

theorem rename_tries (hstable : P.Stable i A) (ha : A w)
    (hsource : ∀ w', A w' → w'.1.entries source = some node)
    (hmove : ∀ w', P.inv w' → A w' → (w'.1.entries path).any Node.isDirectory = false ∧
      ∃ g, P.inv (w'.1.move source path node, g) ∧ P.guar i w' (w'.1.move source path node, g) ∧
        B (w'.1.move source path node, g)) :
    P.Tries i (rename source path : FileM π κ ι δ Unit) w (fun e w => e ≠ .unfinished ∧ A w)
      fun _ => B := by
  refine sysCall_tries hstable ha (fun _ _ _ h => ⟨by simp, h⟩) fun w' s hinv h hs => ?_
  obtain ⟨hentry, g, hg, hguar, hb⟩ := hmove w' hinv h
  simp only [hsource w' h, hentry, Bool.false_eq_true, if_false, Option.some.injEq] at hs ⊢
  subst hs
  exact ⟨g, hg, hguar, hb⟩

theorem link_tries (hstable : P.Stable i A) (ha : A w)
    (hsource : ∀ w', A w' → w'.1.entries source = some node)
    (hput : ∀ w', P.inv w' → A w' → w'.1.entries path = none →
      ∃ g, P.inv (w'.1.put path node, g) ∧ P.guar i w' (w'.1.put path node, g) ∧
        B (w'.1.put path node, g)) :
    P.Tries i (link source path : FileM π κ ι δ Unit) w
      (fun e w => e ≠ .unfinished ∧ A w ∧
        (e = .alreadyExists → ∃ node, w.1.entries path = some node)) fun _ => B := by
  refine sysCall_tries hstable ha (fun _ _ _ h => ⟨by simp, h, by simp⟩) fun w' s hinv h hs => ?_
  cases hentry : w'.1.entries path with
  | none =>
    simp only [hsource w' h, hentry, Option.isSome_none, Bool.false_eq_true, if_false,
      Option.some.injEq] at hs ⊢
    subst hs
    exact hput w' hinv h hentry
  | some taken =>
    simp only [hsource w' h, hentry, Option.isSome_some, if_true, Option.some.injEq] at hs ⊢
    subst hs
    exact ⟨w'.2, hinv, P.idle i w' hinv, by simp, h, fun _ => ⟨taken, hentry⟩⟩

theorem unlink_tries (hstable : P.Stable i A) (ha : A w) (hweaken : ∀ w', A w' → B w')
    (hremove : ∀ w', P.inv w' → A w' →
      ∃ g, P.inv (w'.1.remove path, g) ∧ P.guar i w' (w'.1.remove path, g) ∧
        B (w'.1.remove path, g)) :
    P.Tries i (unlink path : FileM π κ ι δ Unit) w (fun _ => B) fun _ => B := by
  refine sysCall_tries hstable ha (fun _ _ _ h => hweaken _ h) fun w' s hinv h hs => ?_
  obtain rfl := Option.some.inj hs
  obtain ⟨g, hg, hguar, hb⟩ := hremove w' hinv h
  refine ⟨g, hg, hguar, ?_⟩
  cases w'.1.entries path with
  | none => exact hb
  | some node => exact hb

end
end
end CashuService

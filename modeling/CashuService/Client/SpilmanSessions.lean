import CashuService.Client.SpilmanClient
set_option autoImplicit false

namespace CashuService

/-! What the processes that share a data directory rely on. Who has locked the store may replace
it; the lock's own file and the key, once they are there, stay as they are. -/

structure ClientSession (ι F P : Type) where
  thread : ι
  steps : List (StoreChange F P × WriteOutcome)

section

variable {ι F P α : Type}

def ClientSession.alone (codec : StoreFileCodec F P) (file : Option String)
    (session : ClientSession ι F P) :
    Option String :=
  match loadWithLock codec (.ok file) with
  | .ok storage => (StoreSession.run codec ⟨storage, file⟩ session.steps).file
  | .error _ => file

def oneByOne (codec : StoreFileCodec F P) (file : Option String)
    (sessions : List (ClientSession ι F P)) : Option String :=
  sessions.foldl (ClientSession.alone codec) file

/-- The bridge makes these changes, with these outcomes of their writes, and ends with a result. -/
def Bridge.Makes (codec : StoreFileCodec F P) : Bridge F P α → StoreSession F P →
    List (StoreChange F P × WriteOutcome) → Except String α → Prop
  | .done result, _, [], r => result = r
  | .change step next, session, (step', outcome) :: steps, r =>
    step' = step ∧ (next (session.change codec (step, outcome)).storage).Makes codec
      (session.change codec (step, outcome)) steps r
  | _, _, _, _ => False

def Bridge.Begins (codec : StoreFileCodec F P) : Bridge F P α → StoreSession F P →
    List (StoreChange F P × WriteOutcome) → Prop
  | _, _, [] => True
  | .change step next, session, (step', outcome) :: steps =>
    step' = step ∧ (next (session.change codec (step, outcome)).storage).Begins codec
      (session.change codec (step, outcome)) steps
  | .done _, _, _ :: _ => False

theorem Bridge.Makes.begins {codec : StoreFileCodec F P} {bridge : Bridge F P α}
    {session : StoreSession F P} {steps : List (StoreChange F P × WriteOutcome)}
    {r : Except String α} (h : bridge.Makes codec session steps r) :
    bridge.Begins codec session steps := by
  induction bridge generalizing session steps with
  | done result =>
    cases steps with
    | nil => trivial
    | cons step steps => exact h.elim
  | change step next ih =>
    cases steps with
    | nil => trivial
    | cons step' steps => exact ⟨h.1, ih _ h.2⟩

def storeFile (dataDir : Path) (fs : FileSystem Path String ι) : Option String :=
  match fs.entries (spilmanClientStorePath dataDir) with
  | some (.regular _ content) => some content
  | _ => none

def clientFiles (dataDir : Path) : List Path :=
  [spilmanClientStorePath dataDir, spilmanClientStoreLockPath dataDir,
    spilmanSenderKeyPath dataDir]

def HoldsLock (i : ι) (fs : FileSystem Path String ι) : Prop := ∃ inode, fs.locks inode = some i

def Unlocked (fs : FileSystem Path String ι) : Prop := ∀ inode, fs.locks inode = none

/-- The sessions so far, in the order in which they had the lock, and who has made the temporary
files. -/
structure ClientHistory (ι F P : Type) where
  sessions : List (ClientSession ι F P)
  makers : Path → Option ι

abbrev ClientWorld (ι F P : Type) := FileSystem Path String ι × ClientHistory ι F P

def HasKey (crates : SenderKeyCrates) (dataDir : Path) (key : CashuSpilmanSenderKeyFile)
    (fs : FileSystem Path String ι) : Prop :=
  ∃ inode content, fs.entries (spilmanSenderKeyPath dataDir) = some (.regular inode content) ∧
    decodeCashuSpilmanSenderKey crates content = .ok key

/-- A session is that of a process with this work, and has made the first changes of the work on
what it had loaded. -/
def Begun (crates : SenderKeyCrates) (codec : StoreFileCodec F P) (dataDir : Path)
    (initial : Option String) (works : ι → Option (FileSpilmanPaymentSigner F P → Bridge F P α))
    (fs : FileSystem Path String ι) (earlier : List (ClientSession ι F P))
    (session : ClientSession ι F P) : Prop :=
  ∃ work, works session.thread = some work ∧ (session.steps = [] ∨ ∃ key loaded,
    HasKey crates dataDir key fs ∧
    loadWithLock codec (.ok (oneByOne codec initial earlier)) = .ok loaded ∧
    (work ⟨key, loaded⟩).Begins codec ⟨loaded, oneByOne codec initial earlier⟩ session.steps)

def AllBegun (crates : SenderKeyCrates) (codec : StoreFileCodec F P) (dataDir : Path)
    (initial : Option String) (works : ι → Option (FileSpilmanPaymentSigner F P → Bridge F P α))
    (fs : FileSystem Path String ι) (sessions : List (ClientSession ι F P)) : Prop :=
  ∀ earlier session later, sessions = earlier ++ session :: later →
    Begun crates codec dataDir initial works fs earlier session

structure ClientInv (crates : SenderKeyCrates) (codec : StoreFileCodec F P) (dataDir : Path)
    (initial : Option String) (start : FileSystem Path String ι)
    (works : ι → Option (FileSpilmanPaymentSigner F P → Bridge F P α))
    (w : ClientWorld ι F P) : Prop where
  file : storeFile dataDir w.1 = oneByOne codec initial w.2.sessions
  locked : ∀ inode i, w.1.locks inode = some i →
    (∃ content, w.1.entries (spilmanClientStoreLockPath dataDir) =
      some (.regular inode content)) ∧
    ∃ earlier steps, w.2.sessions = earlier ++ [⟨i, steps⟩]
  once : (w.2.sessions.map ClientSession.thread).Nodup
  begun : AllBegun crates codec dataDir initial works w.1 w.2.sessions
  foreign : ∀ path node, Temporary dataDir path → start.entries path = some node →
    w.1.entries path = some node
  made : ∀ path i, w.2.makers path = some i →
    Temporary dataDir path ∧ start.entries path = none

/-- The client's own files are created as regular ones, and only the store is ever replaced, where
it is one. Temporary files come and go under names that were free at the start, and directories are
made on the way to the data. Nothing else changes. -/
def OnlyOwnFiles (dataDir : Path) (start before after : FileSystem Path String ι) : Prop :=
  ∀ path, after.entries path = before.entries path ∨
    (path ∈ clientFiles dataDir ∧ (before.entries path = none ∨
      path = spilmanClientStorePath dataDir ∧ Replaceable (before.entries path)) ∧
    ∃ inode content, after.entries path = some (.regular inode content)) ∨
    (Temporary dataDir path ∧ start.entries path = none ∧ Replaceable (after.entries path)) ∨
    (path <+: dataDir ∧ before.entries path = none ∧ after.entries path = some .directory)

structure ClientGuar (dataDir : Path) (start : FileSystem Path String ι) (i : ι)
    (u v : ClientWorld ι F P) : Prop where
  entries : OnlyOwnFiles dataDir start u.1 v.1
  store : v.1.entries (spilmanClientStorePath dataDir) =
    u.1.entries (spilmanClientStorePath dataDir) ∨ HoldsLock i u.1
  locks : ∀ inode j, j ≠ i → (v.1.locks inode = some j ↔ u.1.locks inode = some j)
  history : v.2.sessions = u.2.sessions ∨
    Unlocked u.1 ∧ v.2.sessions = u.2.sessions ++ [⟨i, []⟩] ∨ HoldsLock i u.1 ∧
    ∃ earlier steps steps', u.2.sessions = earlier ++ [⟨i, steps⟩] ∧
      v.2.sessions = earlier ++ [⟨i, steps'⟩]
  makers : ∀ path j node, j ≠ i → u.2.makers path = some j → u.1.entries path = some node →
    v.1.entries path = some node ∧ v.2.makers path = some j

variable {crates : SenderKeyCrates} {codec : StoreFileCodec F P} {dataDir : Path}
  {initial : Option String} {start : FileSystem Path String ι}
  {works : ι → Option (FileSpilmanPaymentSigner F P → Bridge F P α)} {i j : ι}
  {u v w : ClientWorld ι F P}

theorem oneByOne_concat (file : Option String) (sessions : List (ClientSession ι F P))
    (session : ClientSession ι F P) :
    oneByOne codec file (sessions ++ [session]) =
      session.alone codec (oneByOne codec file sessions) :=
  List.foldl_concat ..

theorem ClientSession.alone_nil (file : Option String) :
    (ClientSession.mk i []).alone codec file = file := by
  unfold alone
  split <;> rfl

theorem ClientSession.alone_loaded {file : Option String} {storage : FileSpilmanClientStorage F P}
    (steps : List (StoreChange F P × WriteOutcome))
    (h : loadWithLock codec (.ok file) = .ok storage) :
    (ClientSession.mk i steps).alone codec file =
    (StoreSession.run codec ⟨storage, file⟩ steps).file := by
  simp only [alone, h]

namespace StoreSession

variable {session : StoreSession F P}

theorem change_file (step : StoreChange F P × WriteOutcome) :
    (session.change codec step).file = session.file ∨ ∃ content,
      codec.encode (step.1.apply session.storage.state) = .ok content ∧
      (session.change codec step).file = some content := by
  obtain ⟨step, outcome⟩ := step
  cases hencode : codec.encode (step.apply session.storage.state) with
  | error error => simp [change, persist, writeSnapshot, hencode]
  | ok content =>
    cases outcome with
    | succeeds => simp [change, persist, writeSnapshot, hencode, writeAtomicPrivate,
      Except.mapError]
    | fails error replaced =>
      cases replaced <;>
        simp [change, persist, writeSnapshot, hencode, writeAtomicPrivate, Except.mapError]

theorem run_file (steps : List (StoreChange F P × WriteOutcome)) :
    (session.run codec steps).file = session.file ∨ ∃ made rest content, steps = made ++ rest ∧
      codec.encode (session.run codec made).storage.state = .ok content ∧
      (session.run codec steps).file = some content := by
  induction steps using List.reverseRecOn with
  | nil => exact .inl rfl
  | append_singleton steps step ih =>
    rw [run_concat]
    rcases @change_file F P codec (session.run codec steps) step with
      hsame | ⟨content, hencode, hfile⟩
    · rw [hsame]
      refine ih.imp_right fun ⟨made, rest, content, hsteps, h⟩ => ?_
      exact ⟨made, rest ++ [step], content, by rw [hsteps, List.append_assoc], h⟩
    · refine .inr ⟨steps ++ [step], [], content, (List.append_nil _).symm, ?_, hfile⟩
      rw [run_concat, change_state, hencode]

end StoreSession

def applyAll (state : SpilmanClientStoreFile F P) (changes : List (StoreChange F P)) :
    SpilmanClientStoreFile F P :=
  changes.foldl (fun state change => change.apply state) state

theorem applyAll_append (state : SpilmanClientStoreFile F P)
    (changes changes' : List (StoreChange F P)) :
    applyAll state (changes ++ changes') = applyAll (applyAll state changes) changes' :=
  List.foldl_append ..

theorem run_state_eq {session : StoreSession F P}
    (steps : List (StoreChange F P × WriteOutcome)) :
    (session.run codec steps).storage.state =
      applyAll session.storage.state (steps.map Prod.fst) := by
  rw [StoreSession.run_state, applyAll, List.foldl_map]

/-- After a session the file holds some of its changes, the first ones, and all of them where no
error is left. -/
theorem alone_effect {file : Option String} {loaded : FileSpilmanClientStorage F P}
    (hcodec : codec.Faithful) (hload : loadWithLock codec (.ok file) = .ok loaded)
    (session : ClientSession ι F P) :
    ∃ made, made <+: session.steps.map Prod.fst ∧
      loadWithLock codec (.ok (session.alone codec file)) =
        .ok ⟨applyAll loaded.state made, none⟩ ∧
      ((StoreSession.run codec ⟨loaded, file⟩ session.steps).storage.ensureOk = .ok () →
        made = session.steps.map Prod.fst) := by
  obtain ⟨hversion, hclean⟩ := loadWithLock_eq_ok hload
  obtain ⟨i, steps⟩ := session
  rw [ClientSession.alone_loaded steps hload]
  have hstart : StoreSession.Durable codec ⟨loaded, file⟩ := by
    refine ⟨hversion, fun _ => ?_⟩
    rw [hload, ← hclean]
  by_cases hok : (StoreSession.run codec ⟨loaded, file⟩ steps).storage.ensureOk = .ok ()
  · refine ⟨steps.map Prod.fst, List.prefix_refl _, ?_, fun _ => rfl⟩
    rw [(hstart.run hcodec steps).clean (FileSpilmanClientStorage.ensureOk_eq_ok.mp hok),
      run_state_eq]
  · rcases @StoreSession.run_file F P codec ⟨loaded, file⟩ steps with
      hsame | ⟨made, rest, content, hsteps, hencode, hfile⟩
    · refine ⟨[], List.nil_prefix, ?_, fun h => absurd h hok⟩
      rw [hsame, hload, ← hclean]
      rfl
    · refine ⟨made.map Prod.fst, ?_, ?_, fun h => absurd h hok⟩
      · rw [hsteps, List.map_append]
        exact List.prefix_append _ _
      · rw [hfile, loadWithLock_encoded hcodec (hstart.run hcodec made).version hencode,
          run_state_eq]

theorem oneByOne_effect {file : Option String} {loaded : FileSpilmanClientStorage F P}
    (hcodec : codec.Faithful) (hload : loadWithLock codec (.ok file) = .ok loaded)
    (sessions : List (ClientSession ι F P)) :
    ∃ order : List (ι × List (StoreChange F P)),
      order.map Prod.fst = sessions.map ClientSession.thread ∧
      loadWithLock codec (.ok (oneByOne codec file sessions)) =
        .ok ⟨applyAll loaded.state (order.flatMap Prod.snd), none⟩ ∧
      ∀ earlier session later, sessions = earlier ++ session :: later →
        ∃ before made after, order = before ++ (session.thread, made) :: after ∧
          before.length = earlier.length ∧ made <+: session.steps.map Prod.fst ∧
          loadWithLock codec (.ok (oneByOne codec file earlier)) =
            .ok ⟨applyAll loaded.state (before.flatMap Prod.snd), none⟩ ∧
          ∀ found, loadWithLock codec (.ok (oneByOne codec file earlier)) = .ok found →
            (StoreSession.run codec ⟨found, oneByOne codec file earlier⟩
              session.steps).storage.ensureOk = .ok () →
            made = session.steps.map Prod.fst := by
  have hclean : loadWithLock codec (.ok file) = .ok ⟨loaded.state, none⟩ := by
    rw [hload, ← (loadWithLock_eq_ok hload).2]
  induction sessions generalizing file loaded with
  | nil => exact ⟨[], rfl, hclean, by simp⟩
  | cons first rest ih =>
    obtain ⟨made, hmade, hload', hall⟩ := alone_effect hcodec hload first
    obtain ⟨order, hthreads, hfinal, hsplit⟩ := ih hload' hload'
    refine ⟨(first.thread, made) :: order, by simp [hthreads], ?_, ?_⟩
    · rw [List.flatMap_cons, applyAll_append]
      exact hfinal
    · intro earlier session later heq
      cases earlier with
      | nil =>
        obtain ⟨rfl, rfl⟩ := List.cons.inj heq
        refine ⟨[], made, order, rfl, rfl, hmade, hclean, fun found hfound hok => hall ?_⟩
        obtain rfl := Except.ok.inj (hload.symm.trans hfound)
        exact hok
      | cons head earlier =>
        obtain ⟨rfl, hrest⟩ := List.cons.inj heq
        obtain ⟨before, made', after, horder, hlength, hfirst, hbefore, hall'⟩ :=
          hsplit earlier session later hrest
        refine ⟨(first.thread, made) :: before, made', after, by rw [horder]; rfl,
          by simp [hlength], hfirst, ?_, hall'⟩
        rw [List.flatMap_cons, applyAll_append]
        exact hbefore

theorem storeFile_eq {fs fs' : FileSystem Path String ι}
    (h : fs'.entries (spilmanClientStorePath dataDir) =
      fs.entries (spilmanClientStorePath dataDir)) :
        storeFile dataDir fs' = storeFile dataDir fs := by
  simp only [storeFile, h]

theorem storeFile_put {inode : Nat} {content : String} {fs : FileSystem Path String ι} :
    storeFile dataDir (fs.put (spilmanClientStorePath dataDir) (.regular inode content)) =
      some content := by
  simp [storeFile]

theorem spilmanClientStoreLockPath_eq :
    spilmanClientStoreLockPath dataDir = dataDir ++ ["spilman-client.json.lock"] := by
  simp only [spilmanClientStoreLockPath, lockPathForStore, spilmanClientStorePath,
    List.dropLast_concat, List.getLast?_concat]
  rfl

theorem lockPath_ne_storePath :
    spilmanClientStoreLockPath dataDir ≠ spilmanClientStorePath dataDir := by
  simp [spilmanClientStoreLockPath_eq, spilmanClientStorePath]

theorem keyPath_ne_storePath :
    spilmanSenderKeyPath dataDir ≠ spilmanClientStorePath dataDir := by
  simp [spilmanSenderKeyPath, spilmanClientStorePath]

theorem mem_clientFiles {path : Path} :
    path ∈ clientFiles dataDir ↔ path = spilmanClientStorePath dataDir ∨
      path = spilmanClientStoreLockPath dataDir ∨ path = spilmanSenderKeyPath dataDir := by
  simp [clientFiles]

theorem clientFile_eq {path : Path} (h : path ∈ clientFiles dataDir) :
    ∃ name, path = dataDir ++ [name] ∧ ∀ suffix, name ≠ ".cashu-private-" ++ suffix := by
  rcases mem_clientFiles.mp h with rfl | rfl | rfl
  · exact ⟨"spilman-client.json", rfl, fun suffix h => by simpa using congrArg String.toList h⟩
  · exact ⟨"spilman-client.json.lock", spilmanClientStoreLockPath_eq,
      fun suffix h => by simpa using congrArg String.toList h⟩
  · exact ⟨"spilman-sender-key.json", rfl, fun suffix h => by simpa using congrArg String.toList h⟩

theorem clientFile_dropLast {path : Path} (h : path ∈ clientFiles dataDir) :
    path.dropLast = dataDir := by
  obtain ⟨name, rfl, -⟩ := clientFile_eq h
  exact List.dropLast_concat

theorem clientFile_aside {path : Path} (h : path ∈ clientFiles dataDir) : Aside dataDir path := by
  obtain ⟨name, rfl, hname⟩ := clientFile_eq h
  refine ⟨fun hbelow => ?_, fun ⟨suffix, heq⟩ => ?_⟩
  · have hlength := hbelow.length_le
    simp at hlength
  · exact hname suffix (by simpa [temporaryPath] using heq)

theorem Temporary.not_prefix {path : Path} (h : Temporary dataDir path) : ¬path <+: dataDir := by
  obtain ⟨name, rfl⟩ := h
  intro hbelow
  have hlength := hbelow.length_le
  simp [temporaryPath] at hlength

theorem OnlyOwnFiles.trans {a b c : FileSystem Path String ι}
    (hab : OnlyOwnFiles dataDir start a b) (hbc : OnlyOwnFiles dataDir start b c) :
    OnlyOwnFiles dataDir start a c := by
  intro path
  rcases hbc path with hsame | ⟨hpath, hold, hnew⟩ | htemporary | ⟨hpath, hnone, hnew⟩
  · rw [hsame]
    exact hab path
  · rcases hab path with hsame | ⟨-, hold', -⟩ | ⟨htemporary, -⟩ | ⟨hbelow, -⟩
    · rw [← hsame]
      exact .inr (.inl ⟨hpath, hold, hnew⟩)
    · exact .inr (.inl ⟨hpath, hold', hnew⟩)
    · exact absurd htemporary (clientFile_aside hpath).2
    · exact absurd hbelow (clientFile_aside hpath).1
  · exact .inr (.inr (.inl htemporary))
  · rcases hab path with hsame | ⟨hmine, -⟩ | ⟨htemporary, -⟩ | ⟨-, -, hdirectory⟩
    · exact .inr (.inr (.inr ⟨hpath, hsame ▸ hnone, hnew⟩))
    · exact absurd hpath (clientFile_aside hmine).1
    · exact absurd hpath htemporary.not_prefix
    · rw [hnone] at hdirectory
      cases hdirectory

theorem OnlyOwnFiles.refl (fs : FileSystem Path String ι) : OnlyOwnFiles dataDir start fs fs :=
  fun _ => .inl rfl

theorem OnlyOwnFiles.kept {a b : FileSystem Path String ι} {path : Path} {node : Node String}
    (h : OnlyOwnFiles dataDir start a b) (hpath : path ≠ spilmanClientStorePath dataDir)
    (htemporary : ¬Temporary dataDir path) (hnode : a.entries path = some node) :
    b.entries path = some node := by
  rcases h path with hsame | ⟨-, hnone | ⟨hstore, -⟩, -⟩ | ⟨hyes, -⟩ | ⟨-, hnone, -⟩
  · rw [hsame, hnode]
  · rw [hnode] at hnone
    cases hnone
  · exact absurd hstore hpath
  · exact absurd hyes htemporary
  · rw [hnode] at hnone
    cases hnone

namespace ClientGuar

theorem kept {path : Path} {node : Node String} (h : ClientGuar dataDir start i u v)
    (hpath : path = spilmanClientStoreLockPath dataDir ∨ path = spilmanSenderKeyPath dataDir)
    (hnode : u.1.entries path = some node) : v.1.entries path = some node := by
  have hmine : path ∈ clientFiles dataDir := mem_clientFiles.mpr (.inr hpath)
  have hne : path ≠ spilmanClientStorePath dataDir := by
    rcases hpath with rfl | rfl
    · exact lockPath_ne_storePath
    · exact keyPath_ne_storePath
  exact h.entries.kept hne (clientFile_aside hmine).2 hnode

theorem replaceable {path : Path} (hmine : path ∈ clientFiles dataDir)
    (h : ClientGuar dataDir start i u v) (hu : Replaceable (u.1.entries path)) :
    Replaceable (v.1.entries path) := by
  rcases h.entries path with hsame | ⟨-, -, inode, content, hnew⟩ | ⟨-, -, hnew⟩ | ⟨hbelow, -⟩
  · rwa [hsame]
  · rw [hnew]
    intro node hnode
    obtain rfl := Option.some.inj hnode
    rfl
  · exact hnew
  · exact absurd hbelow (clientFile_aside hmine).1

theorem quiet (hlocks : ∀ inode j, j ≠ i → (v.1.locks inode = some j ↔ u.1.locks inode = some j))
    (hentries : v.1.entries = u.1.entries) (hhistory : v.2 = u.2) :
    ClientGuar dataDir start i u v where
  entries path := .inl (by rw [hentries])
  store := .inl (by rw [hentries])
  locks := hlocks
  history := .inl (by rw [hhistory])
  makers path j node _ hmaker hnode := by rw [hentries, hhistory]; exact ⟨hnode, hmaker⟩

/-- A second step that leaves the store, the locks and the sessions as they are. -/
theorem followed (h : ClientGuar dataDir start i u v) (h' : ClientGuar dataDir start i v w)
    (hstore : w.1.entries (spilmanClientStorePath dataDir) =
      v.1.entries (spilmanClientStorePath dataDir)) (hsessions : w.2.sessions = v.2.sessions) :
    ClientGuar dataDir start i u w where
  entries := h.entries.trans h'.entries
  store := by
    rw [hstore]
    exact h.store
  locks inode j hj := (h'.locks inode j hj).trans (h.locks inode j hj)
  history := by
    rw [hsessions]
    exact h.history
  makers path j node hj hmaker hnode :=
    have hkept := h.makers path j node hj hmaker hnode
    h'.makers path j node hj hkept.2 hkept.1

end ClientGuar

theorem ClientInv.holder (hinv : ClientInv crates codec dataDir initial start works w)
    {inode inode' : Nat} (hi : w.1.locks inode = some i) (hj : w.1.locks inode' = some j) :
    i = j := by
  obtain ⟨-, earlier, steps, hhistory⟩ := hinv.locked inode i hi
  obtain ⟨-, earlier', steps', hhistory'⟩ := hinv.locked inode' j hj
  rw [hhistory] at hhistory'
  have hlast := (List.append_inj' hhistory' rfl).2
  simp only [List.cons.injEq, ClientSession.mk.injEq, and_true] at hlast
  exact hlast.1

theorem HasKey.kept {key : CashuSpilmanSenderKeyFile} {fs fs' : FileSystem Path String ι}
    (hkept : ∀ node, fs.entries (spilmanSenderKeyPath dataDir) = some node →
      fs'.entries (spilmanSenderKeyPath dataDir) = some node)
    (h : HasKey crates dataDir key fs) : HasKey crates dataDir key fs' := by
  obtain ⟨inode, content, hentry, hdecode⟩ := h
  exact ⟨inode, content, hkept _ hentry, hdecode⟩

section

variable {fs fs' : FileSystem Path String ι} {sessions : List (ClientSession ι F P)}
  {session : ClientSession ι F P}

theorem AllBegun.kept (hkept : ∀ node, fs.entries (spilmanSenderKeyPath dataDir) = some node →
      fs'.entries (spilmanSenderKeyPath dataDir) = some node)
    (h : AllBegun crates codec dataDir initial works fs sessions) :
    AllBegun crates codec dataDir initial works fs' sessions := by
  intro earlier session later heq
  obtain ⟨work, hwork, hsteps⟩ := h earlier session later heq
  refine ⟨work, hwork, hsteps.imp_right fun ⟨key, loaded, hkey, hloaded⟩ => ?_⟩
  exact ⟨key, loaded, hkey.kept hkept, hloaded⟩

theorem AllBegun.concat (h : AllBegun crates codec dataDir initial works fs sessions)
    (hlast : Begun crates codec dataDir initial works fs sessions session) :
    AllBegun crates codec dataDir initial works fs (sessions ++ [session]) := by
  intro earlier session' later heq
  rcases List.eq_nil_or_concat later with rfl | ⟨later', last, rfl⟩
  · obtain ⟨rfl, hsession⟩ := List.append_inj' heq rfl
    obtain rfl := List.cons.inj hsession |>.1
    exact hlast
  · rw [List.concat_eq_append, ← List.cons_append, ← List.append_assoc] at heq
    obtain ⟨rfl, -⟩ := List.append_inj' heq rfl
    exact h earlier session' later' rfl

theorem AllBegun.before
    (h : AllBegun crates codec dataDir initial works fs (sessions ++ [session])) :
    AllBegun crates codec dataDir initial works fs sessions := by
  rintro earlier session' later rfl
  exact h earlier session' (later ++ [session]) (by simp)

theorem AllBegun.last (h : AllBegun crates codec dataDir initial works fs (sessions ++ [session])) :
    Begun crates codec dataDir initial works fs sessions session :=
  h sessions session [] rfl

end

theorem ClientInv.of_same (hinv : ClientInv crates codec dataDir initial start works u)
    (hhistory : v.2 = u.2)
    (hlocks : ∀ inode i, v.1.locks inode = some i → u.1.locks inode = some i)
    (hstore : v.1.entries (spilmanClientStorePath dataDir) =
      u.1.entries (spilmanClientStorePath dataDir))
    (hkept : ∀ path, path = spilmanClientStoreLockPath dataDir ∨
      path = spilmanSenderKeyPath dataDir → ∀ node, u.1.entries path = some node →
      v.1.entries path = some node)
    (htemporary : ∀ path, Temporary dataDir path → v.1.entries path = u.1.entries path) :
    ClientInv crates codec dataDir initial start works v where
  file := by
    rw [hhistory, storeFile_eq hstore]
    exact hinv.file
  locked inode i hi := by
    obtain ⟨⟨content, hentry⟩, hlast⟩ := hinv.locked inode i (hlocks inode i hi)
    exact ⟨⟨content, hkept _ (.inl rfl) _ hentry⟩, hhistory ▸ hlast⟩
  once := hhistory ▸ hinv.once
  begun := hhistory ▸ hinv.begun.kept (hkept _ (.inr rfl))
  foreign path node hpath hnode := by
    rw [htemporary path hpath]
    exact hinv.foreign path node hpath hnode
  made := hhistory ▸ hinv.made

/-- It has not had the lock yet. -/
def NotYet (i : ι) (w : ClientWorld ι F P) : Prop := ∀ session ∈ w.2.sessions, session.thread ≠ i

def Unheld (i : ι) (w : ClientWorld ι F P) : Prop := ¬HoldsLock i w.1

structure Working (dataDir : Path) (i : ι) (inode : Nat) (earlier : List (ClientSession ι F P))
    (file : Option String) (w : ClientWorld ι F P) : Prop where
  lock : w.1.locks inode = some i
  history : ∃ steps, w.2.sessions = earlier ++ [⟨i, steps⟩]
  file : storeFile dataDir w.1 = file

variable {inode : Nat} {earlier : List (ClientSession ι F P)} {file : Option String}
  {A : ClientWorld ι F P → Prop} {path : Path}

theorem ClientGuar.locked (hinv : ClientInv crates codec dataDir initial start works u)
    (hguar : ClientGuar dataDir start j u v) (hj : j ≠ i) (hlock : u.1.locks inode = some i) :
    v.1.locks inode = some i ∧ v.2.sessions = u.2.sessions ∧
      v.1.entries (spilmanClientStorePath dataDir) =
        u.1.entries (spilmanClientStorePath dataDir) := by
  have hnot : ¬HoldsLock j u.1 := fun ⟨inode', hlock'⟩ => hj (hinv.holder hlock' hlock)
  refine ⟨(hguar.locks inode i (Ne.symm hj)).mpr hlock, ?_, hguar.store.resolve_right hnot⟩
  rcases hguar.history with hsame | ⟨hunlocked, -⟩ | ⟨hholds, -⟩
  · exact hsame
  · rw [hunlocked inode] at hlock
    cases hlock
  · exact absurd hholds hnot

theorem ClientGuar.hasKey {key : CashuSpilmanSenderKeyFile}
    (hguar : ClientGuar dataDir start j u v) (h : HasKey crates dataDir key u.1) :
    HasKey crates dataDir key v.1 :=
  h.kept fun _ => hguar.kept (.inr rfl)

theorem create_keeps (inode : Nat) (content : String)
    (hinv : ClientInv crates codec dataDir initial start works w)
    (hpath : path = spilmanClientStoreLockPath dataDir ∨ path = spilmanSenderKeyPath dataDir)
    (hnone : w.1.entries path = none) :
    ClientInv crates codec dataDir initial start works
        (w.1.put path (.regular inode content), w.2) ∧
      ClientGuar dataDir start i w (w.1.put path (.regular inode content), w.2) := by
  have hmine : path ∈ clientFiles dataDir := mem_clientFiles.mpr (.inr hpath)
  have hstore : spilmanClientStorePath dataDir ≠ path := by
    rcases hpath with rfl | rfl
    · exact lockPath_ne_storePath.symm
    · exact keyPath_ne_storePath.symm
  have hkept : ∀ path' node, w.1.entries path' = some node →
      (w.1.put path (.regular inode content)).entries path' = some node := by
    intro path' node hnode
    have hne : path' ≠ path := by
      rintro rfl
      rw [hnode] at hnone
      cases hnone
    rw [FileSystem.put_entries_ne _ _ hne, hnode]
  refine ⟨hinv.of_same rfl (fun _ _ h => h) (FileSystem.put_entries_ne _ _ hstore)
    (fun path' _ => hkept path') fun path' htemporary => ?_, ⟨fun path' => ?_,
      .inl (FileSystem.put_entries_ne _ _ hstore), fun _ _ _ => Iff.rfl, .inl rfl,
      fun path' _ node _ hmaker hnode => ⟨hkept path' node hnode, hmaker⟩⟩⟩
  · refine FileSystem.put_entries_ne _ _ ?_
    rintro rfl
    exact (clientFile_aside hmine).2 htemporary
  · by_cases heq : path' = path
    · subst heq
      exact .inr (.inl ⟨hmine, .inl hnone, _, _, FileSystem.put_entries_self ..⟩)
    · exact .inl (FileSystem.put_entries_ne _ _ heq)

theorem directory_keeps (hinv : ClientInv crates codec dataDir initial start works w)
    (hpath : path <+: dataDir) (hnone : w.1.entries path = none) :
    ClientInv crates codec dataDir initial start works (w.1.put path .directory, w.2) ∧
      ClientGuar dataDir start i w (w.1.put path .directory, w.2) := by
  have hother : ∀ path' ∈ clientFiles dataDir,
      (w.1.put path .directory).entries path' = w.1.entries path' := by
    intro path' hmine
    refine FileSystem.put_entries_ne _ _ ?_
    rintro rfl
    exact (clientFile_aside hmine).1 hpath
  refine ⟨hinv.of_same rfl (fun _ _ h => h) (hother _ (mem_clientFiles.mpr (.inl rfl)))
    (fun path' hpath' node hnode => (hother _ (mem_clientFiles.mpr (.inr hpath'))).trans hnode)
    fun path' htemporary => ?_, ⟨fun path' => ?_, .inl (hother _ (mem_clientFiles.mpr (.inl rfl))),
      fun _ _ _ => Iff.rfl, .inl rfl, fun path' _ node _ hmaker hnode => ⟨?_, hmaker⟩⟩⟩
  · refine FileSystem.put_entries_ne _ _ ?_
    rintro rfl
    exact htemporary.not_prefix hpath
  · by_cases heq : path' = path
    · subst heq
      exact .inr (.inr (.inr ⟨hpath, hnone, FileSystem.put_entries_self ..⟩))
    · exact .inl (FileSystem.put_entries_ne _ _ heq)
  · have hne : path' ≠ path := by
      rintro rfl
      rw [hnode] at hnone
      cases hnone
    exact (FileSystem.put_entries_ne _ _ hne).trans hnode

section

variable [DecidableEq ι] {fs : FileSystem Path String ι} {node : Option (Node String)}

def ClientHistory.mark (history : ClientHistory ι F P) (i : ι) (path : Path) :
    ClientHistory ι F P :=
  { history with makers := Function.update history.makers path (some i) }

omit [DecidableEq ι] in
theorem temporary_keeps (fs : FileSystem Path String ι) (node : Option (Node String))
    (hinv : ClientInv crates codec dataDir initial start works w)
    (hpath : Temporary dataDir path)
    (hmine : w.1.entries path = none ∨ w.2.makers path = some i) (hnode : Replaceable node)
    (hentries : fs.entries = Function.update w.1.entries path node)
    (hlocks : fs.locks = w.1.locks) :
    ClientInv crates codec dataDir initial start works (fs, w.2.mark i path) ∧
      ClientGuar dataDir start i w (fs, w.2.mark i path) := by
  have hne : ∀ path' ∈ clientFiles dataDir, path' ≠ path := by
    rintro path' hclient rfl
    exact (clientFile_aside hclient).2 hpath
  have hother : ∀ path', path' ≠ path → fs.entries path' = w.1.entries path' := by
    intro path' hne
    rw [hentries, Function.update_of_ne hne]
  have hfree : start.entries path = none := by
    rcases hmine with hnone | hmine
    · by_contra hsome
      obtain ⟨node, hnode⟩ := Option.ne_none_iff_exists'.mp hsome
      rw [hinv.foreign path node hpath hnode] at hnone
      cases hnone
    · exact (hinv.made path i hmine).2
  have hstore := hother _ (hne _ (mem_clientFiles.mpr (.inl rfl)))
  refine ⟨⟨(storeFile_eq hstore).trans hinv.file, fun inode j hj => ?_, hinv.once,
    hinv.begun.kept fun node hnode => ?_, fun path' node hpath' hnode => ?_, fun path' j hj => ?_⟩,
    ⟨fun path' => ?_, .inl hstore, fun _ _ _ => by rw [hlocks], .inl rfl,
      fun path' j node hj hmaker hnode => ?_⟩⟩
  · rw [hlocks] at hj
    obtain ⟨⟨content, hentry⟩, hlast⟩ := hinv.locked inode j hj
    exact ⟨⟨content, (hother _ (hne _ (mem_clientFiles.mpr (.inr (.inl rfl))))).trans hentry⟩,
      hlast⟩
  · exact (hother _ (hne _ (mem_clientFiles.mpr (.inr (.inr rfl))))).trans hnode
  · have hpath'' : path' ≠ path := by
      rintro rfl
      rw [hfree] at hnode
      cases hnode
    exact (hother _ hpath'').trans (hinv.foreign path' node hpath' hnode)
  · by_cases heq : path' = path
    · subst heq
      exact ⟨hpath, hfree⟩
    · exact hinv.made path' j ((Function.update_of_ne heq ..).symm.trans hj)
  · by_cases heq : path' = path
    · subst heq
      exact .inr (.inr (.inl ⟨hpath, hfree, by rwa [hentries, Function.update_self]⟩))
    · exact .inl (hother _ heq)
  · have heq : path' ≠ path := by
      rintro rfl
      rcases hmine with hnone | hmine
      · rw [hnode] at hnone
        cases hnone
      · exact hj (Option.some.inj (hmaker.symm.trans hmine))
    exact ⟨(hother _ heq).trans hnode, (Function.update_of_ne heq ..).trans hmaker⟩

end

theorem once_rewritten {old steps : List (StoreChange F P × WriteOutcome)}
    (h : ((earlier ++ [ClientSession.mk i old]).map ClientSession.thread).Nodup) :
    ((earlier ++ [ClientSession.mk i steps]).map ClientSession.thread).Nodup := by
  rwa [List.map_append] at h ⊢

theorem lock_keeps {content : String} {work : FileSpilmanPaymentSigner F P → Bridge F P α}
    (hinv : ClientInv crates codec dataDir initial start works w)
    (hentry : w.1.entries (spilmanClientStoreLockPath dataDir) = some (.regular inode content))
    (hnone : w.1.locks inode = none) (hnew : NotYet i w) (hwork : works i = some work) :
    ClientInv crates codec dataDir initial start works
        (w.1.lock i inode, { w.2 with sessions := w.2.sessions ++ [⟨i, []⟩] }) ∧
      ClientGuar dataDir start i w
        (w.1.lock i inode, { w.2 with sessions := w.2.sessions ++ [⟨i, []⟩] }) := by
  have hunlocked : Unlocked w.1 := by
    intro inode'
    by_contra hsome
    obtain ⟨j, hj⟩ := Option.ne_none_iff_exists'.mp hsome
    obtain ⟨⟨content', hentry'⟩, -⟩ := hinv.locked inode' j hj
    rw [hentry, Option.some.injEq, Node.regular.injEq] at hentry'
    rw [← hentry'.1, hnone] at hj
    cases hj
  refine ⟨⟨?_, fun inode' j hj => ?_, ?_, ?_, hinv.foreign, hinv.made⟩,
    ⟨fun path => .inl rfl, .inl rfl, fun inode' j hj => ?_, .inr (.inl ⟨hunlocked, rfl⟩),
      fun _ _ _ _ hmaker hnode => ⟨hnode, hmaker⟩⟩⟩
  · rw [oneByOne_concat, ClientSession.alone_nil]
    exact hinv.file
  · by_cases heq : inode' = inode
    · subst heq
      obtain rfl : i = j := by simpa [FileSystem.lock] using hj
      exact ⟨⟨content, hentry⟩, w.2.sessions, [], rfl⟩
    · simp [FileSystem.lock, heq, hunlocked inode'] at hj
  · rw [List.map_append, List.nodup_append]
    refine ⟨hinv.once, List.nodup_singleton _, ?_⟩
    intro thread hthread thread' hthread'
    obtain ⟨session, hsession, rfl⟩ := List.mem_map.mp hthread
    rw [List.mem_singleton.mp hthread']
    exact hnew session hsession
  · exact hinv.begun.concat ⟨work, hwork, .inl rfl⟩
  · by_cases heq : inode' = inode
    · subst heq
      simp [FileSystem.lock, hnone, Ne.symm hj]
    · simp [FileSystem.lock, heq]

theorem replace_keeps {steps : List (StoreChange F P × WriteOutcome)} {content : String}
    (inode' : Nat) (hinv : ClientInv crates codec dataDir initial start works w)
    (hlock : w.1.locks inode = some i)
    (hhistory : ∃ steps, w.2.sessions = earlier ++ [⟨i, steps⟩])
    (hreplaceable : Replaceable (w.1.entries (spilmanClientStorePath dataDir)))
    (hbegun : Begun crates codec dataDir initial works w.1 earlier ⟨i, steps⟩)
    (hfile : some content = oneByOne codec initial (earlier ++ [⟨i, steps⟩])) :
    ClientInv crates codec dataDir initial start works
        (w.1.put (spilmanClientStorePath dataDir) (.regular inode' content),
          { w.2 with sessions := earlier ++ [⟨i, steps⟩] }) ∧
      ClientGuar dataDir start i w
        (w.1.put (spilmanClientStorePath dataDir) (.regular inode' content),
          { w.2 with sessions := earlier ++ [⟨i, steps⟩] }) := by
  obtain ⟨old, hold⟩ := hhistory
  have hmine : spilmanClientStorePath dataDir ∈ clientFiles dataDir :=
    mem_clientFiles.mpr (.inl rfl)
  have htemporary : ∀ path, Temporary dataDir path → path ≠ spilmanClientStorePath dataDir := by
    rintro path hpath rfl
    exact (clientFile_aside hmine).2 hpath
  refine ⟨⟨storeFile_put.trans hfile, fun inode' j hj => ?_, ?_, ?_,
    fun path node hpath hnode => ?_, hinv.made⟩,
    ⟨fun path => ?_, .inr ⟨inode, hlock⟩, fun _ _ _ => Iff.rfl,
      .inr (.inr ⟨⟨inode, hlock⟩, earlier, old, steps, hold, rfl⟩),
      fun path j node _ hmaker hnode => ⟨?_, hmaker⟩⟩⟩
  · obtain rfl := hinv.holder hlock hj
    obtain ⟨⟨content', hentry⟩, -⟩ := hinv.locked inode' i hj
    refine ⟨⟨content', ?_⟩, earlier, steps, rfl⟩
    rw [FileSystem.put_entries_ne _ _ lockPath_ne_storePath, hentry]
  · exact once_rewritten (hold ▸ hinv.once)
  · refine AllBegun.kept (fun node hnode => ?_) ((hold ▸ hinv.begun).before.concat hbegun)
    exact (FileSystem.put_entries_ne _ _ keyPath_ne_storePath).trans hnode
  · exact (FileSystem.put_entries_ne _ _ (htemporary path hpath)).trans
      (hinv.foreign path node hpath hnode)
  · by_cases heq : path = spilmanClientStorePath dataDir
    · subst heq
      exact .inr (.inl ⟨hmine, .inr ⟨rfl, hreplaceable⟩, _, _, FileSystem.put_entries_self ..⟩)
    · exact .inl (FileSystem.put_entries_ne _ _ heq)
  · exact (FileSystem.put_entries_ne _ _ (htemporary path (hinv.made path j hmaker).1)).trans hnode

variable [DecidableEq ι]

theorem unlock_keeps {steps : List (StoreChange F P × WriteOutcome)}
    (hinv : ClientInv crates codec dataDir initial start works w)
    (h : Working dataDir i inode earlier file w)
    (hbegun : Begun crates codec dataDir initial works w.1 earlier ⟨i, steps⟩)
    (hfile : file = oneByOne codec initial (earlier ++ [⟨i, steps⟩])) :
    ClientInv crates codec dataDir initial start works
        (w.1.unlock i inode, { w.2 with sessions := earlier ++ [⟨i, steps⟩] }) ∧
      ClientGuar dataDir start i w
        (w.1.unlock i inode, { w.2 with sessions := earlier ++ [⟨i, steps⟩] }) ∧
      Unheld i ((w.1.unlock i inode, { w.2 with sessions := earlier ++ [⟨i, steps⟩] }) :
        ClientWorld ι F P) := by
  have hnone : ∀ inode', (w.1.unlock i inode).locks inode' = none := by
    intro inode'
    by_cases heq : inode' = inode
    · subst heq
      simp [FileSystem.unlock, h.lock]
    · by_contra hsome
      obtain ⟨j, hj⟩ := Option.ne_none_iff_exists'.mp hsome
      simp only [FileSystem.unlock, Function.update_of_ne heq] at hj
      obtain ⟨⟨content, hentry⟩, -⟩ := hinv.locked inode' j hj
      obtain ⟨⟨content', hentry'⟩, -⟩ := hinv.locked inode i h.lock
      rw [hentry, Option.some.injEq, Node.regular.injEq] at hentry'
      exact heq hentry'.1
  obtain ⟨old, hold⟩ := h.history
  refine ⟨⟨h.file.trans hfile, fun inode' j hj => ?_, ?_, ?_, hinv.foreign, hinv.made⟩,
    ⟨fun path => .inl rfl, .inl rfl, fun inode' j hj => ?_,
      .inr (.inr ⟨⟨inode, h.lock⟩, earlier, old, steps, hold, rfl⟩),
      fun _ _ _ _ hmaker hnode => ⟨hnode, hmaker⟩⟩, ?_⟩
  · rw [hnone inode'] at hj
    cases hj
  · exact once_rewritten (hold ▸ hinv.once)
  · exact (hold ▸ hinv.begun).before.concat hbegun
  · refine ⟨fun hlock => ?_, fun hlock => absurd (hinv.holder hlock h.lock) hj⟩
    rw [hnone inode'] at hlock
    cases hlock
  · rintro ⟨inode', hlock⟩
    rw [hnone inode'] at hlock
    cases hlock

theorem release_inv (hinv : ClientInv crates codec dataDir initial start works w) :
    ClientInv crates codec dataDir initial start works (w.1.release i, w.2) ∧
      ClientGuar dataDir start i w (w.1.release i, w.2) := by
  have hlocks : ∀ inode j, j ≠ i →
      ((w.1.release i).locks inode = some j ↔ w.1.locks inode = some j) := by
    intro inode j hj
    by_cases hi : w.1.locks inode = some i <;> simp [FileSystem.release, hi, Ne.symm hj]
  refine ⟨hinv.of_same rfl (fun inode j hj => ?_) rfl (fun _ _ _ h => h) fun _ _ => rfl,
    .quiet hlocks rfl rfl⟩
  by_cases hi : w.1.locks inode = some i
  · simp [FileSystem.release, hi] at hj
  · simpa [FileSystem.release, hi] using hj

/-- The protocol of the processes, of which each has at most one session. -/
def clientProtocol (crates : SenderKeyCrates) (codec : StoreFileCodec F P) (dataDir : Path)
    (initial : Option String) (start : FileSystem Path String ι)
    (works : ι → Option (FileSpilmanPaymentSigner F P → Bridge F P α)) :
    Protocol ι (FileSystem Path String ι) (ClientHistory ι F P) where
  release := FileSystem.release
  inv := ClientInv crates codec dataDir initial start works
  guar := ClientGuar dataDir start
  idle _ _ _ := .quiet (fun _ _ _ => Iff.rfl) rfl rfl
  stops _ _ hinv := release_inv hinv

theorem notYet_stable :
    (clientProtocol crates codec dataDir initial start works).Stable i (NotYet i) := by
  intro j hj u v hu hv hguar h session hsession
  rcases hguar.history with hsame | ⟨-, hnew⟩ | ⟨-, before, steps, steps', hold, hnew⟩
  · exact h session (hsame ▸ hsession)
  · rw [hnew] at hsession
    rcases List.mem_append.mp hsession with hsession | hsession
    · exact h session hsession
    · rwa [List.mem_singleton.mp hsession]
  · rw [hnew] at hsession
    rcases List.mem_append.mp hsession with hsession | hsession
    · exact h session (hold ▸ List.mem_append_left _ hsession)
    · rwa [List.mem_singleton.mp hsession]

theorem unheld_stable :
    (clientProtocol crates codec dataDir initial start works).Stable i (Unheld i) := by
  rintro j hj u v _ _ hguar h ⟨inode, hlock⟩
  exact h ⟨inode, (hguar.locks inode i (Ne.symm hj)).mp hlock⟩

theorem working_stable : (clientProtocol crates codec dataDir initial start works).Stable i
    (Working dataDir i inode earlier file) := by
  intro j hj u v hu _ hguar h
  obtain ⟨hlock, hhistory, hstore⟩ := ClientGuar.locked hu hguar hj h.lock
  exact ⟨hlock, hhistory ▸ h.history, (storeFile_eq hstore).trans h.file⟩

theorem working_remains : Remains (clientProtocol crates codec dataDir initial start works) i
    (Working dataDir i inode earlier file) (spilmanClientStorePath dataDir) := by
  intro node j hj u v hu hv hguar h
  refine ⟨working_stable j hj u v hu hv hguar h.1, ?_⟩
  rw [(ClientGuar.locked hu hguar hj h.1.lock).2.2, h.2]

theorem other_remains
    (hstable : (clientProtocol crates codec dataDir initial start works).Stable i A)
    (hpath : path = spilmanClientStoreLockPath dataDir ∨ path = spilmanSenderKeyPath dataDir) :
    Remains (clientProtocol crates codec dataDir initial start works) i A path :=
  fun _ j hj u v hu hv hguar h => ⟨hstable j hj u v hu hv hguar h.1, hguar.kept hpath h.2⟩

theorem replaceable_stable (hpath : path ∈ clientFiles dataDir)
    (hstable : (clientProtocol crates codec dataDir initial start works).Stable i A) :
    (clientProtocol crates codec dataDir initial start works).Stable i
      fun w => A w ∧ Replaceable (w.1.entries path) :=
  fun j hj u v hu hv hguar h => ⟨hstable j hj u v hu hv hguar h.1, hguar.replaceable hpath h.2⟩

theorem hasKey_stable {key : CashuSpilmanSenderKeyFile} :
    (clientProtocol crates codec dataDir initial start works).Stable i
      fun w => HasKey crates dataDir key w.1 :=
  fun _ _ _ _ _ _ hguar h => ClientGuar.hasKey hguar h

def Apart (dataDir : Path) (A : ClientWorld ι F P → Prop) : Prop :=
  ∀ u v, (∀ path ∈ clientFiles dataDir, v.1.entries path = u.1.entries path) →
    v.1.locks = u.1.locks → v.2.sessions = u.2.sessions → A u → A v

theorem client_workshop (hpath : path ∈ clientFiles dataDir)
    (hstable : (clientProtocol crates codec dataDir initial start works).Stable i A)
    (hapart : Apart dataDir A) :
    Workshop (clientProtocol crates codec dataDir initial start works) i path.dropLast
      (fun path w => w.2.makers path = some i) A := by
  rw [clientFile_dropLast hpath]
  have hclient : ∀ {path path'}, Temporary dataDir path → path' ∈ clientFiles dataDir →
      path' ≠ path := by
    rintro path _ htemporary hclient rfl
    exact (clientFile_aside hclient).2 htemporary
  have hkept : ∀ {w : ClientWorld ι F P} {path : Path} {fs : FileSystem Path String ι}
      {node : Option (Node String)}, A w → Temporary dataDir path →
      fs.entries = Function.update w.1.entries path node → fs.locks = w.1.locks →
      A (fs, w.2.mark i path) := by
    intro w path fs node ha htemporary hentries hlocks
    refine hapart w _ (fun path' hmine => ?_) hlocks rfl ha
    rw [hentries, Function.update_of_ne (hclient htemporary hmine)]
  refine ⟨hstable, fun path node j hj u v hu hv hguar h => ?_,
    fun w path hinv ha hbelow hnone => ?_, fun w path hinv ha htemporary hnone => ?_,
    fun w path inode content hinv ha htemporary hmine => ?_,
    fun w path hinv ha htemporary hmine => ?_⟩
  · have hmade := hguar.makers path i node (Ne.symm hj) h.2.1 h.2.2
    exact ⟨hstable j hj u v hu hv hguar h.1, hmade.2, hmade.1⟩
  · obtain ⟨hinv', hguar⟩ := directory_keeps (i := i) hinv hbelow hnone
    refine ⟨w.2, hinv', hguar, hapart w _ (fun path' hmine => ?_) rfl rfl ha⟩
    refine FileSystem.put_entries_ne _ _ ?_
    rintro rfl
    exact (clientFile_aside hmine).1 hbelow
  · obtain ⟨hinv', hguar⟩ := temporary_keeps (i := i) (w.1.create path "")
      (some (.regular w.1.next "")) hinv htemporary (.inl hnone) (fun _ h => by cases h; rfl) rfl rfl
    exact ⟨_, hinv', hguar, hkept ha htemporary rfl rfl, Function.update_self ..⟩
  · obtain ⟨hinv', hguar⟩ := temporary_keeps (w.1.put path (.regular inode content))
      (some (.regular inode content)) hinv htemporary (.inr hmine) (fun _ h => by cases h; rfl)
      rfl rfl
    exact ⟨_, hinv', hguar, hkept ha htemporary rfl rfl, Function.update_self ..⟩
  · obtain ⟨hinv', hguar⟩ := temporary_keeps (w.1.remove path) none hinv htemporary (.inr hmine)
      (fun _ h => by cases h) rfl rfl
    exact ⟨_, hinv', hguar, hkept ha htemporary rfl rfl⟩

end
end CashuService

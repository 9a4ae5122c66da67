import CashuService.Client.SpilmanSessions
set_option autoImplicit false

namespace CashuService

section

variable {ι F P α β τ : Type} {codec : StoreFileCodec F P} {crates : SenderKeyCrates}
  {dataDir : Path} {initial : Option String} {start : FileSystem Path String ι}
  {works : ι → Option (FileSpilmanPaymentSigner F P → Bridge F P α)} {i : ι}
  {w : ClientWorld ι F P} {A : ClientWorld ι F P → Prop}

theorem orFail_tries {P : Protocol ι (FileSystem Path String ι) β} {x : Except String α}
    {w : FileSystem Path String ι × β} {err : ClientError → FileSystem Path String ι × β → Prop}
    {ok : α → FileSystem Path String ι × β → Prop} (herr : ∀ message, err (.failed message) w)
    (hok : ∀ a, x = .ok a → ok a w) : P.Tries i (orFail x) w err ok := by
  cases x with
  | ok a => exact .pure (hok a rfl)
  | error message => exact .throw (herr message)

/-- An error of the file system is not that of a process that has been given up. -/
theorem ClientError.ofIo_ne {e : IoError} (text : String) (h : e ≠ .unfinished) :
    ClientError.ofIo text e ≠ .unfinished := by
  cases e with
  | unfinished => exact absurd rfl h
  | _ => simp [ClientError.ofIo]

variable [DecidableEq ι]

def Fails (A : ClientWorld ι F P → Prop) (e : ClientError) (w : ClientWorld ι F P) : Prop :=
  e ≠ .unfinished ∧ A w

theorem mapIoError_tries {x : PrivateM ι SecretBytes τ} {text : String}
    {ok : τ → ClientWorld ι F P → Prop}
    (h : (clientProtocol crates codec dataDir initial start works).Tries i x w
      (fun e w => e ≠ .unfinished ∧ A w)
      ok) :
    (clientProtocol crates codec dataDir initial start works).Tries i (mapIoError text x)
    w (Fails A) ok :=
  .adapt (h.imp (fun _ _ h => ⟨ClientError.ofIo_ne text h.1, h.2⟩) fun _ _ h => h)

def KeyApart (dataDir : Path) (A : ClientWorld ι F P → Prop) : Prop :=
  ∀ w inode content, A w → A (w.1.put (spilmanSenderKeyPath dataDir) (.regular inode content), w.2)

def Drawn (crates : SenderKeyCrates) (key : CashuSpilmanSenderKeyFile) : Prop :=
  key.version = spilmanSenderKeyVersion ∧ crates.addKeyFromHex key.secretHex = .ok key.publicKeyHex

omit [DecidableEq ι] in
theorem Apart.and {B : ClientWorld ι F P → Prop} (ha : Apart dataDir A) (hb : Apart dataDir B) :
    Apart dataDir fun w => A w ∧ B w :=
  fun u v hentries hlocks hsessions h =>
    ⟨ha u v hentries hlocks hsessions h.1, hb u v hentries hlocks hsessions h.2⟩

omit [DecidableEq ι] in
theorem hasKey_apart {key : CashuSpilmanSenderKeyFile} :
    Apart dataDir fun w : ClientWorld ι F P => HasKey crates dataDir key w.1 :=
  fun _ _ hentries _ _ h => h.kept fun _ hnode =>
    (hentries _ (mem_clientFiles.mpr (.inr (.inr rfl)))).trans hnode

theorem Drawn.decode {key : CashuSpilmanSenderKeyFile} {content : String} (h : Drawn crates key)
    (hcrates : crates.Faithful) (hencode : crates.encode key = .ok content) :
    decodeCashuSpilmanSenderKey crates content = .ok key := by
  simp [decodeCashuSpilmanSenderKey, hcrates key content hencode, h.1, h.2]

theorem generateKey_tries
    (hstable : (clientProtocol crates codec dataDir initial start works).Stable i A)
    (ha : A w) :
    (clientProtocol crates codec dataDir initial start works).Tries i
    (generateCashuSpilmanSenderKey crates) w
      (Fails A) fun key w => A w ∧ Drawn crates key := by
  refine Protocol.Keeps.atomic fun w' hothers hinv answer fs hfs => ?_
  have ha' := hstable.others hothers ha
  have hidle := (clientProtocol crates codec dataDir initial start works).idle i w' hinv
  cases hadd : crates.addKeyFromHex (hexEncode answer.data.toList) with
  | ok publicKeyHex =>
    simp only [hadd, Except.isOk, Except.toBool, if_true, Option.some.injEq] at hfs
    subst hfs
    refine ⟨w'.2, hinv, hidle, ?_⟩
    simp only [hadd]
    exact ⟨ha', rfl, hadd⟩
  | error error => simp [hadd, Except.isOk, Except.toBool] at hfs

theorem writeKey_tries {key : CashuSpilmanSenderKeyFile} (hcrates : crates.Faithful)
    (hstable : (clientProtocol crates codec dataDir initial start works).Stable i A)
    (hapart : Apart dataDir A) (hkeyApart : KeyApart dataDir A)
    (hkey : Drawn crates key) (ha : A w) :
    (clientProtocol crates codec dataDir initial start works).Tries i
      (writeCashuSpilmanSenderKey crates (spilmanSenderKeyPath dataDir) key) w (Fails A)
      (CreatedOrFound A (fun w => A w ∧ HasKey crates dataDir key w.1)
        (spilmanSenderKeyPath dataDir)) := by
  refine .seq (q := fun content w => A w ∧ crates.encode key = .ok content) ?_ ?_
  · refine orFail_tries (fun message => ⟨by simp, ha⟩) fun content hcontent => ⟨ha, ?_⟩
    cases hencode : crates.encode key with
    | ok content' => simpa [hencode, Except.mapError] using hcontent
    | error error => simp [hencode, Except.mapError] at hcontent
  · rintro content w₁ ⟨h₁, hencode⟩
    have hmine : spilmanSenderKeyPath dataDir ∈ clientFiles dataDir :=
      mem_clientFiles.mpr (.inr (.inr rfl))
    have haside : Aside (spilmanSenderKeyPath dataDir).dropLast (spilmanSenderKeyPath dataDir) := by
      rw [clientFile_dropLast hmine]
      exact clientFile_aside hmine
    refine mapIoError_tries ((createAtomicPrivate_tries
      (client_workshop hmine hstable hapart) haside
      (replaceable_stable hmine hstable) (other_remains hstable (.inr rfl))
      (client_workshop hmine (hstable.and hasKey_stable) (hapart.and hasKey_apart)) h₁
      fun w' source inode hinv h hmaker hnone => ?_).imp ?_ fun _ _ h => h)
    · obtain ⟨hinv', hguar⟩ := create_keeps (i := i) inode content hinv
        (.inr rfl) hnone
      exact ⟨w'.2, hinv', hguar, ⟨hkeyApart w' inode content h, _, content,
        FileSystem.put_entries_self .., hkey.decode hcrates hencode⟩, hmaker⟩
    · rintro e w ⟨he, h | ⟨h, -⟩⟩
      · exact ⟨he, h⟩
      · exact ⟨he, h⟩

theorem loadKeyFrom_there {rounds : Nat} {node : Node String}
    (hstable : (clientProtocol crates codec dataDir initial start works).Stable i A)
    (ha : A w ∧ w.1.entries (spilmanSenderKeyPath dataDir) = some node) :
    (clientProtocol crates codec dataDir initial start works).Tries i
      (loadOrCreateCashuSpilmanSenderKeyFrom crates (spilmanSenderKeyPath dataDir) (rounds + 1)) w
      (Fails A) fun key w => A w ∧ HasKey crates dataDir key w.1 := by
  have hremains : Remains (clientProtocol crates codec dataDir initial start works) i A
      (spilmanSenderKeyPath dataDir) := other_remains hstable (.inr rfl)
  have hread : (clientProtocol crates codec dataDir initial start works).Tries i
      (caught (readPrivateRegularToString (spilmanSenderKeyPath dataDir)) :
        ClientM ι (Except IoError String)) w (Fails A)
      (Protocol.outcomes (NotThere (fun w => A w ∧
          w.1.entries (spilmanSenderKeyPath dataDir) = some node) (spilmanSenderKeyPath dataDir))
        fun content w => (A w ∧ w.1.entries (spilmanSenderKeyPath dataDir) = some node) ∧
          ∃ inode, w.1.entries (spilmanSenderKeyPath dataDir) = some (.regular inode content)) :=
    .caught (readPrivate_tries (hremains node)
      (other_remains (hremains node) (.inr rfl)) ha)
  refine .seq hread fun r w₁ h₁ => ?_
  cases r with
  | ok content =>
    obtain ⟨⟨ha', -⟩, inode, hentry⟩ := h₁
    exact orFail_tries (fun message => ⟨by simp, ha'⟩) fun key hkey =>
      ⟨ha', inode, content, hentry, hkey⟩
  | error e =>
    cases e with
    | notFound =>
      have hnone := h₁.2.2 rfl
      rw [h₁.2.1.2] at hnone
      cases hnone
    | unfinished => exact absurd rfl h₁.1
    | _ => exact .throw ⟨by simp [ClientError.ofIo], h₁.2.1.1⟩

theorem loadOrCreateKey_tries {rounds : Nat} (hcrates : crates.Faithful)
    (hstable : (clientProtocol crates codec dataDir initial start works).Stable i A)
    (hapart : Apart dataDir A) (hkeyApart : KeyApart dataDir A)
    (ha : A w) :
    (clientProtocol crates codec dataDir initial start works).Tries i
      (loadOrCreateCashuSpilmanSenderKey crates dataDir (rounds + 2)) w (Fails A)
      fun key w => A w ∧ HasKey crates dataDir key w.1 := by
  have hremains : Remains (clientProtocol crates codec dataDir initial start works) i A
      (spilmanSenderKeyPath dataDir) := other_remains hstable (.inr rfl)
  have hread : (clientProtocol crates codec dataDir initial start works).Tries i
      (caught (readPrivateRegularToString (spilmanSenderKeyPath dataDir)) :
        ClientM ι (Except IoError String)) w (Fails A)
      (Protocol.outcomes (NotThere A (spilmanSenderKeyPath dataDir)) fun content w => A w ∧
        ∃ inode, w.1.entries (spilmanSenderKeyPath dataDir) = some (.regular inode content)) :=
    .caught (readPrivate_tries hstable hremains ha)
  refine .seq hread fun r w₁ h₁ => ?_
  cases r with
  | ok content =>
    obtain ⟨ha', inode, hentry⟩ := h₁
    exact orFail_tries (fun message => ⟨by simp, ha'⟩) fun key hkey =>
      ⟨ha', inode, content, hentry, hkey⟩
  | error e =>
    cases e with
    | notFound =>
      refine .seq (generateKey_tries hstable h₁.2.1) fun key w₂ h₂ => ?_
      refine .seq (writeKey_tries hcrates hstable hapart hkeyApart h₂.2 h₂.1)
        fun created w₃ h₃ => ?_
      refine .ite (fun hcreated => ?_) fun hcreated => ?_
      · simp only [CreatedOrFound, Persisted, hcreated, if_true] at h₃
        exact .pure h₃
      · simp only [CreatedOrFound, Persisted, hcreated] at h₃
        obtain ⟨ha', node, hnode⟩ := h₃
        exact loadKeyFrom_there hstable ⟨ha', hnode⟩
    | unfinished => exact absurd rfl h₁.1
    | _ => exact .throw ⟨by simp [ClientError.ofIo], h₁.2.1⟩

omit [DecidableEq ι] in
theorem notYet_apart : Apart dataDir (NotYet (F := F) (P := P) i) := by
  intro u v _ _ hsessions h session hsession
  exact h session (hsessions ▸ hsession)

omit [DecidableEq ι] in
theorem unheld_apart : Apart dataDir (Unheld (F := F) (P := P) i) := by
  rintro u v _ hlocks _ h ⟨inode, hlock⟩
  exact h ⟨inode, hlocks ▸ hlock⟩

/-- The lock with all the sessions before it. -/
def Acquired (codec : StoreFileCodec F P) (dataDir : Path) (initial : Option String) (i : ι)
    (inode : Nat) (w : ClientWorld ι F P) : Prop :=
  ∃ earlier, Working dataDir i inode earlier (oneByOne codec initial earlier) w

omit [DecidableEq ι] in
theorem acquired_of_lock {inode : Nat} {content : String}
    (hinv : ClientInv crates codec dataDir initial start works w)
    (hentry : w.1.entries (spilmanClientStoreLockPath dataDir) = some (.regular inode content))
    (hnone : w.1.locks inode = none) (hnew : NotYet i w) (hwork : (works i).isSome) :
    ∃ g, ClientInv crates codec dataDir initial start works (w.1.lock i inode, g) ∧
      ClientGuar dataDir start i w (w.1.lock i inode, g) ∧
      Acquired codec dataDir initial i inode (w.1.lock i inode, g) := by
  obtain ⟨work, hwork⟩ := Option.isSome_iff_exists.mp hwork
  obtain ⟨hinv', hguar⟩ := lock_keeps hinv hentry hnone hnew hwork
  refine ⟨_, hinv', hguar, w.2.sessions, ?_, ⟨[], rfl⟩, hinv.file⟩
  simp [FileSystem.lock]

theorem lock_tries {nonblocking : Bool} {inode : Nat} {content : String}
    (hwork : (works i).isSome)
    (ha : (NotYet i w ∧ Unheld i w) ∧
      w.1.entries (spilmanClientStoreLockPath dataDir) = some (.regular inode content)) :
    (clientProtocol crates codec dataDir initial start works).Tries i
      (if nonblocking then tryFlock i inode else flock i inode : PrivateM ι SecretBytes Unit) w
      (fun e w => e ≠ .unfinished ∧ Unheld i w)
      fun _ => Acquired codec dataDir initial i inode := by
  have hnew : (clientProtocol crates codec dataDir initial start works).Stable i
      fun w => NotYet i w ∧ Unheld i w := notYet_stable.and unheld_stable
  have hstable := other_remains hnew (.inl rfl) (.regular inode content)
  refine .ite (fun _ => ?_) fun _ => ?_
  · refine sysCall_tries hstable ha (fun _ _ _ h => ⟨by simp, h.1.2⟩) fun w' fs hinv h hfs => ?_
    cases hlock : w'.1.locks inode with
    | none =>
      simp only [hlock, Option.isSome_none, Bool.false_eq_true, if_false,
        Option.some.injEq] at hfs ⊢
      subst hfs
      exact acquired_of_lock hinv h.2 hlock h.1.1 hwork
    | some j =>
      simp only [hlock, Option.isSome_some, if_true, Option.some.injEq] at hfs ⊢
      subst hfs
      exact ⟨w'.2, hinv, (clientProtocol crates codec dataDir initial start works).idle i w' hinv,
        by simp, h.1.2⟩
  · refine sysCall_tries hstable ha (fun _ _ _ h => ⟨by simp, h.1.2⟩) fun w' fs hinv h hfs => ?_
    cases hlock : w'.1.locks inode with
    | none =>
      simp only [hlock, Option.isSome_none, Bool.false_eq_true, if_false,
        Option.some.injEq] at hfs
      subst hfs
      exact acquired_of_lock hinv h.2 hlock h.1.1 hwork
    | some j => simp [hlock] at hfs

theorem acquireInner_tries {nonblocking : Bool} {rounds : Nat} (hwork : (works i).isSome)
    (ha : NotYet i w ∧ Unheld i w) :
    (clientProtocol crates codec dataDir initial start works).Tries i
      (acquireInner i (spilmanClientStorePath dataDir) nonblocking (rounds + 2)) w
      (Fails (Unheld i)) fun lock w => match lock with
        | none => nonblocking = true ∧ Unheld i w
        | some lock => lock.storePath = spilmanClientStorePath dataDir ∧
          Acquired codec dataDir initial i lock.file.inode w := by
  have hstable : (clientProtocol crates codec dataDir initial start works).Stable i
      fun w => NotYet i w ∧ Unheld i w := notYet_stable.and unheld_stable
  have hmine : spilmanClientStoreLockPath dataDir ∈ clientFiles dataDir :=
    mem_clientFiles.mpr (.inr (.inl rfl))
  have haside : Aside (spilmanClientStoreLockPath dataDir).dropLast
      (spilmanClientStoreLockPath dataDir) := by
    rw [clientFile_dropLast hmine]
    exact clientFile_aside hmine
  have hapart : Apart dataDir fun w : ClientWorld ι F P => NotYet i w ∧ Unheld i w :=
    notYet_apart.and unheld_apart
  have hopen : (clientProtocol crates codec dataDir initial start works).Tries i
      (openPrivateLockFile (spilmanClientStoreLockPath dataDir) (rounds + 2) :
        PrivateM ι SecretBytes PrivateFile) w
      (fun e w => e ≠ .unfinished ∧ NotYet i w ∧ Unheld i w) fun file w =>
        (NotYet i w ∧ Unheld i w) ∧ w.1.entries (spilmanClientStoreLockPath dataDir) =
          some (.regular file.inode file.content) :=
    openPrivateLockFile_tries (client_workshop hmine hstable hapart) haside
      (replaceable_stable hmine hstable) (other_remains hstable (.inl rfl)) ha
      fun w' source inode hinv h hmaker hnone =>
        have hkeeps := create_keeps inode "" hinv (.inl rfl) hnone
        ⟨w'.2, hkeeps.1, hkeeps.2, h, hmaker⟩
  refine .seq (mapIoError_tries (hopen.imp (fun _ _ h => ⟨h.1, h.2.2⟩) fun _ _ h => h)) ?_
  intro file w₁ h₁
  have hlock : (clientProtocol crates codec dataDir initial start works).Tries i
      (caught (if nonblocking then tryFlock i file.inode else flock i file.inode) :
        ClientM ι (Except IoError Unit)) w₁ (Fails (Unheld i))
      (Protocol.outcomes (fun e w => e ≠ .unfinished ∧ Unheld i w)
        fun _ => Acquired codec dataDir initial i file.inode) :=
    .caught (lock_tries hwork h₁)
  refine .seq hlock fun r w₂ h₂ => ?_
  cases r with
  | ok _ => exact .pure ⟨rfl, h₂⟩
  | error e =>
    refine .ite (fun hbusy => .pure ⟨hbusy.1, h₂.2⟩) fun _ => .throw ?_
    exact ⟨ClientError.ofIo_ne _ h₂.1, h₂.2⟩

variable {inode : Nat} {earlier : List (ClientSession ι F P)} {file : Option String}
  {loaded : FileSpilmanClientStorage F P} {lock : SharedSpilmanClientStoreLock}

/-- The lock, and nothing but a regular file in the place of the store. -/
def Replacing (dataDir : Path) (i : ι) (inode : Nat) (earlier : List (ClientSession ι F P))
    (file : Option String) (w : ClientWorld ι F P) : Prop :=
  Working dataDir i inode earlier file w ∧
    Replaceable (w.1.entries (spilmanClientStorePath dataDir))

theorem replacing_stable : (clientProtocol crates codec dataDir initial start works).Stable i
    (Replacing dataDir i inode earlier file) :=
  replaceable_stable (mem_clientFiles.mpr (.inl rfl)) working_stable

omit [DecidableEq ι] in
theorem replacing_apart : Apart dataDir (Replacing (F := F) (P := P)
    dataDir i inode earlier file) := by
  rintro u v hentries hlocks hsessions ⟨h, hreplaceable⟩
  have hstore := hentries _ (mem_clientFiles.mpr (.inl rfl))
  exact ⟨⟨hlocks ▸ h.lock, hsessions ▸ h.history, (storeFile_eq hstore).trans h.file⟩,
    by rwa [hstore]⟩

theorem replacing_remains : Remains (clientProtocol crates codec dataDir initial start works) i
    (Replacing dataDir i inode earlier file) (spilmanClientStorePath dataDir) :=
  fun node j hj u v hu hv hguar h => ⟨replacing_stable j hj u v hu hv hguar h.1,
    (working_remains node j hj u v hu hv hguar ⟨h.1.1, h.2⟩).2⟩

omit [DecidableEq ι] in
theorem replacing_keyApart : KeyApart dataDir (Replacing dataDir i inode earlier file) := by
  rintro w inode' content ⟨h, hreplaceable⟩
  have hstore : (w.1.put (spilmanSenderKeyPath dataDir) (.regular inode' content)).entries
      (spilmanClientStorePath dataDir) = w.1.entries (spilmanClientStorePath dataDir) :=
    FileSystem.put_entries_ne _ _ keyPath_ne_storePath.symm
  exact ⟨⟨h.lock, h.history, (storeFile_eq hstore).trans h.file⟩, by rwa [hstore]⟩

theorem load_tries (hpath : lock.storePath = spilmanClientStorePath dataDir)
    (ha : Working dataDir i inode earlier file w) :
    (clientProtocol crates codec dataDir initial start works).Tries i
    (FileSpilmanClientStorage.load codec lock) w
      (Fails (Working dataDir i inode earlier file)) fun loaded w =>
        Replacing dataDir i inode earlier file w ∧ loadWithLock codec (.ok file) = .ok loaded := by
  have hread : (clientProtocol crates codec dataDir initial start works).Tries i
      (caught (readPrivateRegularToString lock.storePath) : ClientM ι (Except IoError String)) w
      (Fails (Working dataDir i inode earlier file))
      (Protocol.outcomes (NotThere (Working dataDir i inode earlier file)
          (spilmanClientStorePath dataDir))
        fun content w => Working dataDir i inode earlier file w ∧
          ∃ inode, w.1.entries (spilmanClientStorePath dataDir)
            = some (.regular inode content)) := by
    rw [hpath]
    exact .caught (readPrivate_tries working_stable working_remains ha)
  refine .seq hread fun r w₁ h₁ => ?_
  cases r with
  | ok content =>
    obtain ⟨h, inode', hentry⟩ := h₁
    have hfile : file = some content := by rw [← h.file, storeFile, hentry]
    refine orFail_tries (fun _ => ⟨by simp, h⟩) fun loaded hloaded => ⟨⟨h, ?_⟩, hfile ▸ hloaded⟩
    intro node hnode
    rw [hentry] at hnode
    obtain rfl := Option.some.inj hnode
    rfl
  | error e =>
    cases e with
    | notFound =>
      have hnone := h₁.2.2 rfl
      have hfile : file = none := by rw [← h₁.2.1.file, storeFile, hnone]
      refine orFail_tries (fun _ => ⟨by simp, h₁.2.1⟩) fun loaded hloaded =>
        ⟨⟨h₁.2.1, ?_⟩, hfile ▸ hloaded⟩
      intro node hnode
      rw [hnone] at hnode
      cases hnode
    | _ => exact orFail_tries (fun _ => ⟨by simp, h₁.2.1⟩) fun _ h => by cases h

/-- A session so far: what it has loaded, its changes, and what the file holds now. -/
structure Reached (codec : StoreFileCodec F P) (initial : Option String)
    (earlier : List (ClientSession ι F P)) (loaded : FileSpilmanClientStorage F P)
    (steps : List (StoreChange F P × WriteOutcome)) (session : StoreSession F P) : Prop where
  start : loadWithLock codec (.ok (oneByOne codec initial earlier)) = .ok loaded
  run : StoreSession.run codec ⟨loaded, oneByOne codec initial earlier⟩ steps = session

variable {steps : List (StoreChange F P × WriteOutcome)} {session : StoreSession F P}
  {step : StoreChange F P} {outcome : WriteOutcome}

omit [DecidableEq ι] in
theorem Reached.change (h : Reached codec initial earlier loaded steps session)
    (step : StoreChange F P × WriteOutcome) :
    Reached codec initial earlier loaded (steps ++ [step]) (session.change codec step) :=
  ⟨h.start, by rw [StoreSession.run_concat, h.run]⟩

omit [DecidableEq ι] in
theorem Reached.oneByOne_eq (h : Reached codec initial earlier loaded steps session) :
    oneByOne codec initial (earlier ++ [⟨i, steps⟩]) = session.file := by
  rw [oneByOne_concat, ClientSession.alone_loaded steps h.start, h.run]

def Changed (codec : StoreFileCodec F P) (session : StoreSession F P) (step : StoreChange F P)
    (lastError file : Option String) : Prop :=
  ∃ outcome, session.change codec (step, outcome) =
    ⟨⟨step.apply session.storage.state, lastError⟩, file⟩

def Signing (crates : SenderKeyCrates) (dataDir : Path) (i : ι) (inode : Nat)
    (earlier : List (ClientSession ι F P)) (key : CashuSpilmanSenderKeyFile)
    (file : Option String) (w : ClientWorld ι F P) : Prop :=
  Replacing dataDir i inode earlier file w ∧ HasKey crates dataDir key w.1

variable {key : CashuSpilmanSenderKeyFile} {work : FileSpilmanPaymentSigner F P → Bridge F P α}

theorem signing_stable : (clientProtocol crates codec dataDir initial start works).Stable i
    (Signing crates dataDir i inode earlier key file) :=
  replacing_stable.and hasKey_stable

omit [DecidableEq ι] in
theorem signing_apart :
    Apart dataDir (Signing (F := F) (P := P) crates dataDir i inode earlier key file) :=
  replacing_apart.and hasKey_apart

theorem signing_remains : Remains (clientProtocol crates codec dataDir initial start works) i
    (Signing crates dataDir i inode earlier key file) (spilmanClientStorePath dataDir) :=
  fun node j hj u v hu hv hguar h => ⟨signing_stable j hj u v hu hv hguar h.1,
    (replacing_remains node j hj u v hu hv hguar ⟨h.1.1, h.2⟩).2⟩

omit [DecidableEq ι] in
/-- A new file in the place of the store, with the change in the history of its session. -/
theorem replaced {content : String} {source : Path} {inode' : Nat}
    (h : Reached codec initial earlier loaded steps session)
    (hencode : codec.encode (step.apply session.storage.state) = .ok content)
    (hwork : works i = some work)
    (hbegins : ∀ outcome, (work ⟨key, loaded⟩).Begins codec ⟨loaded, oneByOne codec initial earlier⟩
      (steps ++ [(step, outcome)]))
    (hinv : ClientInv crates codec dataDir initial start works w)
    (ha : Signing crates dataDir i inode earlier key session.file w)
    (hsource : Temporary dataDir source) (hmaker : w.2.makers source = some i) :
    ∃ g, ClientInv crates codec dataDir initial start works
        (w.1.move source (spilmanClientStorePath dataDir) (.regular inode' content), g) ∧
      ClientGuar dataDir start i w
        (w.1.move source (spilmanClientStorePath dataDir) (.regular inode' content), g) ∧
      Signing crates dataDir i inode earlier key (some content)
        (w.1.move source (spilmanClientStorePath dataDir) (.regular inode' content), g) := by
  have hfile : some content = oneByOne codec initial
      (earlier ++ [⟨i, steps ++ [(step, .fails "" true)]⟩]) := by
    rw [(h.change _).oneByOne_eq]
    simp [StoreSession.change, StoreSession.persist, StoreSession.writeSnapshot, hencode,
      writeAtomicPrivate, Except.mapError]
  have hne : ∀ path ∈ clientFiles dataDir, path ≠ source := by
    rintro path hmine rfl
    exact (clientFile_aside hmine).2 hsource
  have hstore := hne _ (mem_clientFiles.mpr (.inl rfl))
  obtain ⟨⟨hworking, hreplaceable⟩, hkey⟩ := ha
  -- the store is replaced first, and then the temporary file is gone
  obtain ⟨hinv₁, hguar₁⟩ := replace_keeps inode' hinv hworking.lock hworking.history
    hreplaceable ⟨work, hwork, .inr ⟨key, loaded, hkey, h.start, hbegins _⟩⟩ hfile
  obtain ⟨hinv₂, hguar₂⟩ := temporary_keeps (i := i)
    (w.1.move source (spilmanClientStorePath dataDir) (.regular inode' content)) none hinv₁ hsource
    (.inr hmaker) (fun _ h => by cases h) rfl rfl
  have hplaced : (w.1.move source (spilmanClientStorePath dataDir)
    (.regular inode' content)).entries
      (spilmanClientStorePath dataDir) = some (.regular inode' content) :=
    (FileSystem.remove_entries_ne _ hstore).trans (FileSystem.put_entries_self ..)
  refine ⟨_, hinv₂, hguar₁.followed hguar₂ (FileSystem.remove_entries_ne _ hstore) rfl,
    ⟨⟨hworking.lock, ⟨_, rfl⟩, by rw [storeFile, hplaced]⟩, fun node hnode => ?_⟩, ?_⟩
  · obtain rfl := Option.some.inj (hplaced.symm.trans hnode)
    rfl
  · refine hkey.kept fun node hnode => ?_
    exact (FileSystem.remove_entries_ne _ (hne _ (mem_clientFiles.mpr (.inr (.inr rfl))))).trans
      ((FileSystem.put_entries_ne _ _ keyPath_ne_storePath).trans hnode)

theorem Changed.succeeds {content : String}
    (hencode : codec.encode (step.apply session.storage.state) = .ok content) :
    Changed codec session step none (some content) := by
  refine ⟨.succeeds, ?_⟩
  simp [StoreSession.change, StoreSession.persist, StoreSession.writeSnapshot, hencode,
    writeAtomicPrivate, Except.mapError]

theorem Changed.fails {content : String}
    (hencode : codec.encode (step.apply session.storage.state) = .ok content) (error : String)
    (replaced : Bool) :
    Changed codec session step (some ("failed to write Spilman client store: " ++ error))
      (if replaced then some content else session.file) := by
  refine ⟨.fails error replaced, ?_⟩
  simp only [StoreSession.change, StoreSession.persist, StoreSession.writeSnapshot, hencode,
    writeAtomicPrivate, Except.mapError]
  rfl

theorem ofIo_message (text : String) {e : IoError} (he : e ≠ .unfinished) :
    (ClientError.ofIo text e).message = text ++ e.toString := by
  cases e with
  | unfinished => exact absurd rfl he
  | _ => rfl

theorem writeSnapshot_tries (h : Reached codec initial earlier loaded steps session)
    (hwork : works i = some work)
    (hbegins : ∀ outcome, (work ⟨key, loaded⟩).Begins codec ⟨loaded, oneByOne codec initial earlier⟩
      (steps ++ [(step, outcome)]))
    (ha : Signing crates dataDir i inode earlier key session.file w) (lastError : Option String) :
    (clientProtocol crates codec dataDir initial start works).Tries i
      (FileSpilmanClientStorage.writeSnapshot codec (spilmanClientStorePath dataDir)
        ⟨step.apply session.storage.state, lastError⟩) w
      (fun e w => ∃ file, Changed codec session step (some e.message) file ∧
        Signing crates dataDir i inode earlier key file w)
      fun _ w => ∃ file, Changed codec session step none file ∧
        Signing crates dataDir i inode earlier key file w := by
  cases hencode : codec.encode (step.apply session.storage.state) with
  | error error =>
    refine .bind ?_
    rw [hencode]
    refine .throw ⟨session.file, ⟨.succeeds, ?_⟩, ha⟩
    simp [StoreSession.change, StoreSession.persist, StoreSession.writeSnapshot, hencode,
      ClientError.message]
  | ok content =>
    have hmine : spilmanClientStorePath dataDir ∈ clientFiles dataDir :=
      mem_clientFiles.mpr (.inl rfl)
    have haside : Aside (spilmanClientStorePath dataDir).dropLast
      (spilmanClientStorePath dataDir) := by
      rw [clientFile_dropLast hmine]
      exact clientFile_aside hmine
    have hwrite : (clientProtocol crates codec dataDir initial start works).Tries i
        (writeAtomicPrivateFile (spilmanClientStorePath dataDir) content :
          PrivateM ι SecretBytes Unit) w
        (fun e w => e ≠ .unfinished ∧ (Signing crates dataDir i inode earlier key session.file w ∨
          Signing crates dataDir i inode earlier key (some content) w))
        fun _ => Signing crates dataDir i inode earlier key (some content) :=
      writeAtomicPrivateFile_tries (client_workshop hmine signing_stable signing_apart) haside
        (replaceable_stable hmine signing_stable) signing_remains signing_stable ha
        fun w' source inode' hinv ha' hsource hmaker _ =>
          replaced h hencode hwork hbegins hinv ha' (clientFile_dropLast hmine ▸ hsource) hmaker
    refine .bind ?_
    rw [hencode]
    refine .pure (.adapt (hwrite.imp ?_ fun _ w h => ⟨_, .succeeds hencode, h⟩))
    rintro e w ⟨he, h⟩
    rw [ofIo_message _ he]
    rcases h with h | h
    · exact ⟨_, .fails hencode e.toString false, h⟩
    · exact ⟨_, .fails hencode e.toString true, h⟩

theorem persist_tries (h : Reached codec initial earlier loaded steps session)
    (hwork : works i = some work)
    (hbegins : ∀ outcome, (work ⟨key, loaded⟩).Begins codec ⟨loaded, oneByOne codec initial earlier⟩
      (steps ++ [(step, outcome)]))
    (ha : Signing crates dataDir i inode earlier key session.file w) :
    (clientProtocol crates codec dataDir initial start works).Tries i
      (FileSpilmanClientStorage.persist codec (spilmanClientStorePath dataDir)
        { session.storage with state := step.apply session.storage.state }) w (fun _ _ => False)
      fun storage w => ∃ outcome, (session.change codec (step, outcome)).storage = storage ∧
        Signing crates dataDir i inode earlier key
          (session.change codec (step, outcome)).file w := by
  have hsnapshot : (clientProtocol crates codec dataDir initial start works).Tries i
      (caught (FileSpilmanClientStorage.writeSnapshot codec (spilmanClientStorePath dataDir)
        { session.storage with state := step.apply session.storage.state }) :
          ClientM ι (Except ClientError Unit)) w (fun _ _ => False)
      (Protocol.outcomes
        (fun e w => ∃ file, Changed codec session step (some (ClientError.message e)) file ∧
          Signing crates dataDir i inode earlier key file w)
        fun _ w => ∃ file, Changed codec session step none file ∧
          Signing crates dataDir i inode earlier key file w) :=
    .caught (writeSnapshot_tries h hwork hbegins ha _)
  refine .seq hsnapshot fun r w₁ h₁ => ?_
  cases r with
  | ok _ =>
    obtain ⟨file, ⟨outcome, hchange⟩, h₁⟩ := h₁
    exact .pure ⟨outcome, by rw [hchange], by rwa [hchange]⟩
  | error e =>
    obtain ⟨file, ⟨outcome, hchange⟩, h₁⟩ := h₁
    exact .pure ⟨outcome, by rw [hchange], by rwa [hchange]⟩

theorem perform_tries (rest : Bridge F P α)
    (h : Reached codec initial earlier loaded steps session) (hwork : works i = some work)
    (hbegins : ∀ more, rest.Begins codec session more → (work ⟨key, loaded⟩).Begins codec
      ⟨loaded, oneByOne codec initial earlier⟩ (steps ++ more))
    (ha : Signing crates dataDir i inode earlier key session.file w) :
    (clientProtocol crates codec dataDir initial start works).Tries i
      (rest.perform codec (spilmanClientStorePath dataDir) session.storage) w (fun _ _ => False)
      fun r w => ∃ steps' session', rest.Makes codec session steps' r.1 ∧
        Reached codec initial earlier loaded (steps ++ steps') session' ∧
        session'.storage = r.2 ∧ Signing crates dataDir i inode earlier key session'.file w := by
  induction rest generalizing steps session w with
  | done result =>
    exact .pure ⟨[], session, rfl, by simpa using h, rfl, ha⟩
  | change step next ih =>
    have hnext : ∀ outcome more, (next (session.change codec (step, outcome)).storage).Begins codec
        (session.change codec (step, outcome)) more → (work ⟨key, loaded⟩).Begins codec
        ⟨loaded, oneByOne codec initial earlier⟩ (steps ++ [(step, outcome)] ++ more) := by
      intro outcome more hmore
      rw [List.append_assoc]
      exact hbegins ((step, outcome) :: more) ⟨rfl, hmore⟩
    refine .seq (persist_tries h hwork (fun outcome => hbegins _ ⟨rfl, by simp [Bridge.Begins]⟩) ha)
      fun storage w₁ h₁ => ?_
    obtain ⟨outcome, rfl, h₁⟩ := h₁
    refine (ih _ (h.change (step, outcome)) (hnext outcome) h₁).imp (fun _ _ h => h) ?_
    rintro r w₂ ⟨steps', session', hmakes, hreached, hstorage, h₂⟩
    refine ⟨(step, outcome) :: steps', session', ⟨rfl, hmakes⟩, ?_, hstorage, h₂⟩
    simpa using hreached

/-- A payment that the signer has made: the session before it found all of the earlier ones, and
ended with all of its changes in the file. -/
structure Signed (codec : StoreFileCodec F P) (initial : Option String)
    (work : FileSpilmanPaymentSigner F P → Bridge F P α) (key : CashuSpilmanSenderKeyFile)
    (earlier : List (ClientSession ι F P)) (steps : List (StoreChange F P × WriteOutcome))
    (payment : α) (loaded : FileSpilmanClientStorage F P) (session : StoreSession F P) :
    Prop where
  reached : Reached codec initial earlier loaded steps session
  makes : (work ⟨key, loaded⟩).Makes codec ⟨loaded, oneByOne codec initial earlier⟩ steps
    (.ok payment)
  clean : session.storage.ensureOk = .ok ()

variable {rounds : Nat}

def Locked (dataDir : Path) (i : ι) (inode : Nat) (earlier : List (ClientSession ι F P))
    (w : ClientWorld ι F P) : Prop :=
  ∃ file, Working dataDir i inode earlier file w

theorem loadSigner_tries (hcrates : crates.Faithful)
    (hpath : lock.storePath = spilmanClientStorePath dataDir)
    (ha : Working dataDir i inode earlier file w) :
    (clientProtocol crates codec dataDir initial start works).Tries i
      (FileSpilmanPaymentSigner.loadWithLock crates codec dataDir lock (rounds + 2)) w
      (Fails (Working dataDir i inode earlier file)) fun signer w =>
        Signing crates dataDir i inode earlier signer.sender file w ∧
          loadWithLock codec (.ok file) = .ok signer.storage := by
  have hrequire : requireLockForDataDir dataDir lock = .ok lock := by
    simp [requireLockForDataDir, hpath]
  refine .bind ?_
  rw [hrequire]
  refine .pure (.seq (load_tries hpath ha) fun loaded w₁ h₁ => ?_)
  have hkey : (clientProtocol crates codec dataDir initial start works).Tries i
      (loadOrCreateCashuSpilmanSenderKey crates dataDir (rounds + 2)) w₁
      (Fails (Replacing dataDir i inode earlier file)) fun key w =>
        Signing crates dataDir i inode earlier key file w :=
    loadOrCreateKey_tries hcrates replacing_stable replacing_apart replacing_keyApart h₁.1
  refine .seq (hkey.imp (fun _ _ h => ⟨h.1, h.2.1⟩) fun _ _ h => h) fun sender w₂ h₂ => ?_
  refine .bind (orFail_tries (fun _ => ⟨by simp, h₂.1.1⟩) fun publicKeyHex _ => ?_)
  exact .ite (fun _ => .throw ⟨by simp, h₂.1.1⟩) fun _ => .pure ⟨h₂, h₁.2⟩

theorem sign_tries {signer : FileSpilmanPaymentSigner F P} (hwork : works i = some work)
    (hload : loadWithLock codec (.ok (oneByOne codec initial earlier)) = .ok signer.storage)
    (ha : Signing crates dataDir i inode earlier signer.sender (oneByOne codec initial earlier) w) :
    (clientProtocol crates codec dataDir initial start works).Tries i
      (signer.sign codec dataDir work) w (Fails (Locked dataDir i inode earlier))
      fun payment w => ∃ steps session,
        Signed codec initial work signer.sender earlier steps payment signer.storage session ∧
        Working dataDir i inode earlier session.file w ∧
        HasKey crates dataDir signer.sender w.1 := by
  have hreached : Reached codec initial earlier signer.storage []
      ⟨signer.storage, oneByOne codec initial earlier⟩ := ⟨hload, rfl⟩
  refine .seq ((perform_tries (work signer) hreached hwork (fun _ h => h) ha).imp
    (fun _ _ h => h.elim) fun _ _ h => h) fun r w₁ h₁ => ?_
  obtain ⟨steps, session, hmakes, hreached', hstorage, h₁⟩ := h₁
  have hlocked : Locked dataDir i inode earlier w₁ := ⟨_, h₁.1.1⟩
  obtain ⟨result, storage⟩ := r
  obtain rfl : session.storage = storage := hstorage
  refine .bind (orFail_tries (fun _ => ⟨by simp, hlocked⟩) fun payment hpayment => ?_)
  refine .bind (orFail_tries (fun _ => ⟨by simp, hlocked⟩) fun _ hclean => ?_)
  exact .pure ⟨steps, session, ⟨hreached', hpayment ▸ hmakes, hclean⟩, h₁.1.1, h₁.2⟩

theorem close_tries {err : ClientError → ClientWorld ι F P → Prop} {C : ClientWorld ι F P → Prop}
    {Q : List (StoreChange F P × WriteOutcome) → Prop}
    (hstable : (clientProtocol crates codec dataDir initial start works).Stable i C)
    (hsteps : ∀ w steps, C w → Begun crates codec dataDir initial works w.1 earlier ⟨i, steps⟩ →
      file = oneByOne codec initial (earlier ++ [⟨i, steps⟩]) →
      ∃ steps', Q steps' ∧ Begun crates codec dataDir initial works w.1 earlier ⟨i, steps'⟩ ∧
        file = oneByOne codec initial (earlier ++ [⟨i, steps'⟩]))
    (ha : Working dataDir i inode earlier file w) (hc : C w) :
    (clientProtocol crates codec dataDir initial start works).Tries i
      (close i inode : ClientM ι Unit) w err
      fun _ w => Unheld i w ∧ ∃ steps, Q steps ∧ w.2.sessions = earlier ++ [⟨i, steps⟩] := by
  refine Protocol.Keeps.atomic fun w' hothers hinv _ fs hfs => ?_
  obtain rfl := Option.some.inj hfs
  have ha' := working_stable.others hothers ha
  obtain ⟨old, hold⟩ := ha'.history
  obtain ⟨steps, hQ, hbegun, hfile⟩ := hsteps w' old (hstable.others hothers hc)
    (hold ▸ hinv.begun).last (by rw [← ha'.file, hinv.file, hold])
  obtain ⟨hinv', hguar, hunheld⟩ := unlock_keeps hinv ha' hbegun hfile
  exact ⟨_, hinv', hguar, hunheld, steps, hQ, rfl⟩

def SessionEnd (crates : SenderKeyCrates) (codec : StoreFileCodec F P) (dataDir : Path)
    (initial : Option String) (i : ι) (nonblocking : Bool)
    (work : FileSpilmanPaymentSigner F P → Bridge F P α) (r : Option α)
    (w : ClientWorld ι F P) : Prop :=
  Unheld i w ∧ match r with
    | none => nonblocking = true
    | some payment => ∃ key earlier steps later loaded session, HasKey crates dataDir key w.1 ∧
        w.2.sessions = earlier ++ ⟨i, steps⟩ :: later ∧
        Signed codec initial work key earlier steps payment loaded session

theorem session_tries {nonblocking : Bool} (hcrates : crates.Faithful) (hwork : works i = some work)
    (ha : NotYet i w ∧ Unheld i w) :
    (clientProtocol crates codec dataDir initial start works).Tries i
      (FileSpilmanPaymentSigner.session crates codec i dataDir nonblocking work (rounds + 2)) w
      (Fails (Unheld i)) (SessionEnd crates codec dataDir initial i nonblocking work) := by
  refine .seq (acquireInner_tries (by simp [hwork]) ha) fun lock w₁ h₁ => ?_
  cases lock with
  | none => exact .pure h₁.symm
  | some lock =>
    obtain ⟨hpath, earlier, h₁⟩ := h₁
    have hbody : (clientProtocol crates codec dataDir initial start works).Tries i (caught (do
        let signer ← FileSpilmanPaymentSigner.loadWithLock crates codec dataDir lock (rounds + 2)
        signer.sign codec dataDir work) : ClientM ι (Except ClientError α)) w₁ (Fails (Unheld i))
        (Protocol.outcomes (Fails (Locked dataDir i lock.file.inode earlier))
          fun payment w => ∃ key loaded steps session,
            Signed codec initial work key earlier steps payment loaded session ∧
            Working dataDir i lock.file.inode earlier session.file w ∧
            HasKey crates dataDir key w.1) := by
      refine .caught (.seq ((loadSigner_tries hcrates hpath h₁).imp
        (fun _ _ h => ⟨h.1, _, h.2⟩) fun _ _ h => h) fun signer w₂ h₂ => ?_)
      exact (sign_tries hwork h₂.2 h₂.1).imp (fun _ _ h => h) fun payment w h =>
        ⟨signer.sender, signer.storage, h⟩
    refine .seq hbody fun r w₂ h₂ => ?_
    cases r with
    | error e =>
      obtain ⟨he, file, h₂⟩ := h₂
      refine .seq (close_tries (Q := fun _ => True) .true
        (fun _ steps _ hbegun h => ⟨steps, trivial, hbegun, h⟩) h₂ trivial) ?_
      exact fun _ w₃ h₃ => .throw ⟨he, h₃.1⟩
    | ok payment =>
      obtain ⟨key, loaded, steps, session, hsigned, h₂, hkey⟩ := h₂
      have hbegun : ∀ fs, HasKey crates dataDir key fs →
          Begun crates codec dataDir initial works fs earlier ⟨i, steps⟩ := fun fs hkey =>
        ⟨work, hwork, .inr ⟨key, loaded, hkey, hsigned.reached.start, hsigned.makes.begins⟩⟩
      refine .seq ((close_tries (Q := fun steps' => steps' = steps) hasKey_stable
        (fun w _ hkey _ _ => ⟨steps, rfl, hbegun w.1 hkey, hsigned.reached.oneByOne_eq.symm⟩)
        h₂ hkey).frame (fun _ _ _ _ _ => ClientGuar.hasKey) hkey) fun _ w₃ h₃ => .pure ?_
      obtain ⟨⟨hunheld, _, rfl, hhistory⟩, hkey⟩ := h₃
      exact ⟨hunheld, key, earlier, _, [], loaded, session, hkey, hhistory, hsigned⟩

end
end CashuService

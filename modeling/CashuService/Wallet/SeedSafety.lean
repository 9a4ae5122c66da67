import CashuService.Wallet.Seed
set_option autoImplicit false

namespace CashuService

variable {V : Type} {format : SeedFileFormat} {dataDir : Path} {store : SeedStore V} {s : Seed}
  {d d' : Disk V}

theorem osCall_acts {effect : Disk V → Disk V} {inv : Disk V → Prop} (hbefore : inv d)
    (hafter : inv (effect d)) :
    Acts (osCall effect) d (fun _ => inv) fun _ d' => d' = effect d := by
  refine .call hbefore (fun _ => rfl) (fun n _ => ?_) fun n => ?_
  all_goals
    by_cases hn : n = 0
    · simpa only [hn, if_true] using hbefore
    · simpa only [hn, if_false] using hafter

theorem osQuery_acts : Acts osQuery d (fun _ d' => d' = d) fun _ d' => d' = d :=
  osCall_acts rfl rfl

def SeedError.Harmless (e : SeedError) : Prop := ∀ path, e ≠ .seedMissing path

theorem context_acts {α : Type} {x : SeedM V α} {text : String} {inv : Disk V → Prop}
    {ok : α → Disk V → Prop} (h : Acts x d (fun _ => inv) ok) :
    Acts (context text x) d (fun e d' => e.Harmless ∧ inv d') ok := by
  refine .onError (h.imp (fun e d' hd' => ⟨fun path => ?_, hd'⟩) fun _ _ h => h)
  split <;> simp

/-- The file holds this seed. -/
def SeedFileFormat.Holds (format : SeedFileFormat) (path : Path) (s : Seed) (d : Disk V) : Prop :=
  ∃ content, d.files path = some content ∧ format.decode content = .ok s

theorem SeedFileFormat.Holds.congr {path : Path} (hfiles : d'.files path = d.files path) :
    format.Holds path s d' ↔ format.Holds path s d := by
  simp only [SeedFileFormat.Holds, hfiles]

theorem SeedFileFormat.Holds.unique {path : Path} {s' : Seed} (h : format.Holds path s d)
    (h' : format.Holds path s' d) : s = s' := by
  obtain ⟨content, hcontent, hdecode⟩ := h
  obtain ⟨content', hcontent', hdecode'⟩ := h'
  obtain rfl := Option.some.inj (hcontent.symm.trans hcontent')
  exact Except.ok.inj (hdecode.symm.trans hdecode')

theorem readWalletSeed_acts {path : Path} :
    Acts (readWalletSeed format path) d (fun _ d' => d' = d) fun r d' =>
      d' = d ∧ format.Holds path r d := by
  have hread : Acts (readToString path) d (fun _ d' => d' = d) fun content d' =>
      d' = d ∧ d.files path = some content := by
    refine osQuery_acts.seq fun _ d' hd' => ?_
    subst hd'
    refine .peek_bind ?_
    cases hcontent : d'.files path with
    | none => exact .throw rfl
    | some content => exact .pure ⟨rfl, rfl⟩
  refine ((context_acts hread).imp (fun _ _ h => h.2) fun _ _ h => h).seq fun content d' h => ?_
  obtain ⟨rfl, hcontent⟩ := h
  intro replies
  refine .attempt (fun _ _ => rfl) fun r hr => ⟨rfl, content, hcontent, ?_⟩
  exact Except.mapError_eq_ok.mp hr

theorem loadLegacySeed_acts {migrate : Bool} :
    Acts (loadLegacySeed format dataDir migrate) d (fun e d' => e.Harmless ∧ d' = d)
      fun r d' => d' = d ∧ ∀ legacy, r = some legacy →
        migrate = true ∧ format.Holds (cashuWalletSeedPath dataDir) legacy d := by
  refine .peek_bind (.ite (fun hmigrate => ?_) fun _ => .pure ⟨rfl, nofun⟩)
  have hmigrate : migrate = true := (Bool.and_eq_true_iff.mp hmigrate).1
  refine (context_acts (readWalletSeed_acts.imp (fun _ _ h => h) fun _ _ h => h)).seq ?_
  rintro r d' ⟨hd', hholds⟩
  refine .pure ⟨hd', fun legacy hlegacy => ⟨hmigrate, ?_⟩⟩
  exact Option.some.inj hlegacy ▸ hholds

namespace SeedStore

/-- The seed can be retrieved: there is a way for a load to return it. -/
def Gives (store : SeedStore V) (s : Seed) (d : Disk V) : Prop :=
  ∃ replies, ∀ rest, ∃ d', store.loadSeed ⟨d, replies ++ rest⟩ = .ok (some s) ⟨d', rest⟩

structure Same (store : SeedStore V) (d d' : Disk V) : Prop where
  files : d'.files = d.files
  vault : ∀ s files, store.Gives s ⟨files, d'.vault⟩ ↔ store.Gives s ⟨files, d.vault⟩

theorem Same.refl (d : Disk V) : store.Same d d := ⟨rfl, fun _ _ => Iff.rfl⟩

theorem Same.of_eq (h : d' = d) : store.Same d d' := by
  rw [h]
  exact .refl d

theorem Same.gives (h : store.Same d d') : store.Gives s d' ↔ store.Gives s d := by
  obtain ⟨files, vault⟩ := d'
  obtain rfl : files = d.files := h.files
  exact h.vault s d.files

theorem Same.remove (h : store.Same d d') (path : Path) :
    store.Gives s (d'.remove path) ↔ store.Gives s (d.remove path) := by
  have hremoved := h.vault s (d.remove path).files
  rw [Disk.remove, h.files]
  exact hremoved

/-- A durable cell: a load that answers gives back what the store holds. The lock of the wallet and
the files of its database are not part of the store, and it leaves a seed file of the wallet as it
is when there is one. That a store gives back what is stored in it is checked by the code. -/
structure DurableCell (store : SeedStore V) (dataDir : Path) : Prop where
  loads : ∀ d, Acts store.loadSeed d (fun _ => store.Same d) fun r d' =>
    store.Same d d' ∧ ∀ s, r = some s ↔ store.Gives s d
  lock : ∀ s d, store.Gives s (d.create (walletLockPath dataDir)) ↔ store.Gives s d
  database : ∀ s (d d' : Disk V), d'.vault = d.vault →
    (∀ path ∉ cashuWalletDatabaseFiles dataDir, d'.files path = d.files path) →
    (store.Gives s d' ↔ store.Gives s d)
  legacy : ∀ seed (d : Disk V) content, d.files (cashuWalletSeedPath dataDir) = some content →
    Acts (store.storeSeed seed) d (fun _ _ => True) fun _ d' =>
      d'.files (cashuWalletSeedPath dataDir) = some content

/-- Where `cashu/seed.json` holds the seed that the store gives back, the store gives it back also
without that file. -/
def SurvivesMigration (store : SeedStore V) (format : SeedFileFormat) (dataDir : Path) : Prop :=
  ∀ s d, store.Gives s d → format.Holds (cashuWalletSeedPath dataDir) s d →
    store.Gives s (d.remove (cashuWalletSeedPath dataDir))

/-- A durable cell that a wallet can be opened with, with a migration or without. -/
structure Separate (store : SeedStore V) (format : SeedFileFormat) (dataDir : Path)
    (migrate : Bool) : Prop where
  cell : store.DurableCell dataDir
  survives : migrate = true → store.SurvivesMigration format dataDir

theorem DurableCell.write (hcell : store.DurableCell dataDir) (content : String) :
    store.Gives s (d.write (cashuWalletDbPath dataDir) content) ↔ store.Gives s d := by
  refine hcell.database s d _ rfl fun path hpath => Function.update_of_ne ?_ _ _
  rintro rfl
  exact hpath (by simp [cashuWalletDatabaseFiles, cashuWalletDbPath])

end SeedStore

theorem storeVerified_acts {seed : Seed} {storing verifying : String} {content : String}
    (hcell : store.DurableCell dataDir)
    (hlegacy : d.files (cashuWalletSeedPath dataDir) = some content) :
    Acts (storeVerified store seed storing verifying) d (fun _ _ => True) fun _ d' =>
      store.Gives seed d' ∧ d'.files (cashuWalletSeedPath dataDir) = some content := by
  refine ((context_acts (hcell.legacy seed d content hlegacy)).imp (fun _ _ _ => trivial)
    fun _ _ h => h).seq fun _ d₁ hd₁ => ?_
  refine ((context_acts (hcell.loads d₁)).imp (fun _ _ _ => trivial) fun _ _ h => h).seq ?_
  rintro r d₂ ⟨hsame, hr⟩
  refine .ite (fun _ => .throw trivial) fun hverified => .pure ⟨?_, ?_⟩
  · exact hsame.gives.mpr ((hr seed).mp (not_not.mp hverified))
  · rw [hsame.files, hd₁]

theorem storeVerified_gives {seed : Seed} {storing verifying : String}
    (hcell : store.DurableCell dataDir) :
    Acts (storeVerified store seed storing verifying) d (fun _ _ => True) fun _ =>
      store.Gives seed := by
  have hany : Acts (context storing (store.storeSeed seed)) d (fun _ _ => True)
      fun _ _ => True := fun _ => .intro (fun _ _ _ => trivial) fun _ _ _ => trivial
  refine hany.seq fun _ d₁ _ => ?_
  refine ((context_acts (hcell.loads d₁)).imp (fun _ _ _ => trivial) fun _ _ h => h).seq ?_
  rintro r d₂ ⟨hsame, hr⟩
  refine .ite (fun _ => .throw trivial) fun hverified => .pure ?_
  exact hsame.gives.mpr ((hr seed).mp (not_not.mp hverified))

def ResolvedWalletSeed.Kept (format : SeedFileFormat) (dataDir : Path) (store : SeedStore V)
    (migrate : Bool) (d : Disk V) (resolved : ResolvedWalletSeed) : Prop :=
  store.Gives resolved.seed d ∧ (resolved.removeLegacyAfterDatabaseOpen = true →
    migrate = true ∧ format.Holds (cashuWalletSeedPath dataDir) resolved.seed d)

theorem resolveWalletSeed_acts {migrate : Bool} {fresh : Seed}
    (hcell : store.DurableCell dataDir) :
    Acts (resolveWalletSeed format dataDir store migrate fresh) d (fun _ _ => True) fun r d' =>
      r.Kept format dataDir store migrate d' := by
  refine ((context_acts (hcell.loads d)).imp (fun _ _ _ => trivial) fun _ _ h => h).seq ?_
  rintro stored d₁ ⟨hsame, hstored⟩
  refine (loadLegacySeed_acts.imp (fun _ _ _ => trivial) fun _ _ h => h).seq ?_
  rintro legacy d₂ ⟨rfl, hlegacy⟩
  cases stored with
  | some seed =>
    have hgives := hsame.gives.mpr ((hstored seed).mp rfl)
    cases legacy with
    | none => exact .pure ⟨hgives, nofun⟩
    | some legacy =>
      refine .ite (fun _ => .throw trivial) fun heq => .pure ⟨hgives, fun _ => ?_⟩
      obtain rfl := not_not.mp heq
      exact hlegacy seed rfl
  | none =>
    cases legacy with
    | some legacy =>
      obtain ⟨hmigrate, content, hcontent, hdecode⟩ := hlegacy legacy rfl
      exact (storeVerified_acts hcell hcontent).seq fun _ d' hd' =>
        .pure ⟨hd'.1, fun _ => ⟨hmigrate, content, hd'.2, hdecode⟩⟩
    | none =>
      refine .peek_bind (.ite (fun _ => .throw trivial) fun _ => ?_)
      exact (storeVerified_gives hcell).seq fun _ d' hgives => .pure ⟨hgives, nofun⟩

/-- A seed that can be retrieved is the one that is resolved, and nothing is written. -/
theorem resolveWalletSeed_kept {migrate : Bool} {fresh : Seed}
    (hcell : store.DurableCell dataDir) (h : store.Gives s d) :
    Acts (resolveWalletSeed format dataDir store migrate fresh) d
      (fun e d' => e.Harmless ∧ store.Same d d') fun r d' => store.Same d d' ∧ r.seed = s ∧
        r.Kept format dataDir store migrate d' := by
  refine (context_acts (hcell.loads d)).seq fun stored d₁ hload => ?_
  obtain ⟨hsame, hstored⟩ := hload
  obtain rfl := (hstored s).mpr h
  have hgives := hsame.gives.mpr h
  refine (loadLegacySeed_acts.imp (fun _ _ he => ⟨he.1, he.2 ▸ hsame⟩) fun _ _ h => h).seq ?_
  rintro legacy d₂ ⟨rfl, hlegacy⟩
  cases legacy with
  | none => exact .pure ⟨hsame, rfl, hgives, nofun⟩
  | some legacy =>
    refine .ite (fun _ => .throw ⟨by simp [SeedError.Harmless], hsame⟩) fun heq => ?_
    obtain rfl := not_not.mp heq
    exact .pure ⟨hsame, rfl, hgives, fun _ => hlegacy s rfl⟩

theorem seedPath_ne_lock : cashuWalletSeedPath dataDir ≠ walletLockPath dataDir := by
  simp [cashuWalletSeedPath, walletLockPath]

theorem seedPath_ne_db : cashuWalletSeedPath dataDir ≠ cashuWalletDbPath dataDir := by
  simp [cashuWalletSeedPath, cashuWalletDbPath]

theorem finish_kept {migrate : Bool} {r : ResolvedWalletSeed}
    (hstore : store.Separate format dataDir migrate)
    (h : r.Kept format dataDir store migrate d) :
    Acts (do
      context "failed to open Cashu wallet database" (openDatabase dataDir)
      context "failed to build Cashu wallet repository" osQuery
      finalizeLegacySeedMigration dataDir r
      return (⟨dataDir, r.seed⟩ : CashuWalletService)) d
      (fun e d' => e.Harmless ∧ store.Gives r.seed d')
      fun service d' => store.Gives r.seed d' ∧ service.seed = r.seed := by
  have hwrite := (hstore.cell.write "SQLite format 3").mpr h.1
  refine (context_acts (osCall_acts h.1 hwrite)).seq fun _ d₁ hd₁ => ?_
  have hopened : r.Kept format dataDir store migrate d₁ := by
    subst hd₁
    refine ⟨hwrite, fun hremove => (h.2 hremove).imp_right ?_⟩
    exact (SeedFileFormat.Holds.congr (Function.update_of_ne seedPath_ne_db _ _)).mpr
  have hbuild : Acts osQuery d₁ (fun _ => store.Gives r.seed) fun _ d' => d' = d₁ :=
    osCall_acts hopened.1 hopened.1
  refine (context_acts hbuild).seq fun _ d₂ hbuilt => ?_
  subst hbuilt
  have hfinal : Acts (finalizeLegacySeedMigration dataDir r) d₂
      (fun e d' => e.Harmless ∧ store.Gives r.seed d') fun _ => store.Gives r.seed := by
    refine .ite (fun hr => context_acts ?_) fun _ => .pure hopened.1
    refine .peek_bind (.ite (fun _ => ?_) fun _ => .pure hopened.1)
    obtain ⟨hmigrate, hholds⟩ := hopened.2 hr
    have hremoved := hstore.survives hmigrate _ _ hopened.1 hholds
    exact (osCall_acts hopened.1 hremoved).imp (fun _ _ h => h) fun _ _ hd' => hd' ▸ hremoved
  exact hfinal.seq fun _ d₃ hkept => .pure ⟨hkept, rfl⟩

theorem acquireWalletWriterLock_acts (inv : Disk V → Prop) (hbefore : inv d)
    (hafter : inv (d.create (walletLockPath dataDir))) :
    Acts (acquireWalletWriterLock dataDir) d (fun e d' => e.Harmless ∧ inv d') fun _ => inv := by
  refine (context_acts (osCall_acts hbefore hafter)).seq fun _ d₁ hd₁ => ?_
  subst hd₁
  refine .onError (osQuery_acts.imp (fun e d' hd' => ⟨?_, hd' ▸ hafter⟩)
    fun _ _ hd' => hd' ▸ hafter)
  intro path
  split <;> simp

namespace CashuWalletService

theorem openWith_acts {migrate : Bool} {fresh : Seed}
    (hstore : store.Separate format dataDir migrate) :
    Acts (openWith format dataDir store migrate fresh) d (fun _ _ => True) fun service d' =>
      store.Gives service.seed d' := by
  refine ((context_acts osQuery_acts).imp (fun _ _ _ => trivial) fun _ _ h => h).seq ?_
  intro _ d₁ _
  refine ((acquireWalletWriterLock_acts (fun _ => True) trivial trivial).imp
    (fun _ _ _ => trivial) fun _ _ h => h).seq fun _ d₂ _ => ?_
  refine (resolveWalletSeed_acts hstore.cell).seq fun r d₃ h => ?_
  refine (finish_kept hstore h).imp (fun _ _ _ => trivial) fun service d' hkept => ?_
  rw [hkept.2]
  exact hkept.1

/-- An open of a wallet whose store gives a seed uses that seed, or fails; it never finds the
seed missing, and however it ends, the store still gives the seed. -/
theorem openWith_kept {migrate : Bool} {fresh : Seed}
    (hstore : store.Separate format dataDir migrate) (h : store.Gives s d) :
    Acts (openWith format dataDir store migrate fresh) d
      (fun e d' => e.Harmless ∧ store.Gives s d') fun service d' =>
        store.Gives s d' ∧ service.seed = s := by
  have hquery : Acts osQuery d (fun _ => store.Gives s) fun _ => store.Gives s :=
    osQuery_acts.imp (fun _ _ hd' => hd' ▸ h) fun _ _ hd' => hd' ▸ h
  refine (context_acts hquery).seq fun _ d₁ h₁ => ?_
  refine (acquireWalletWriterLock_acts _ h₁ ((hstore.cell.lock s d₁).mpr h₁)).seq fun _ d₂ h₂ => ?_
  refine ((resolveWalletSeed_kept hstore.cell h₂).imp
    (fun _ _ he => ⟨he.1, he.2.gives.mpr h₂⟩) fun _ _ hr => hr).seq fun r d₃ hr => ?_
  obtain ⟨-, rfl, hkept⟩ := hr
  exact finish_kept hstore hkept

/-- One call of `open_with_seed_store`: what the random generator would produce, and the replies
of the surroundings, which may stop the process at any step. -/
structure OpenCall where
  fresh : Seed
  replies : List (Reply Unit)

def opens (format : SeedFileFormat) (dataDir : Path) (store : SeedStore V) (d : Disk V)
    (calls : List OpenCall) : Disk V :=
  calls.foldl (fun d c =>
    leaves (openWithSeedStore format dataDir store c.fresh ⟨d, c.replies⟩)) d

theorem opens_kept (hstore : store.Separate format dataDir true) (h : store.Gives s d)
    (calls : List OpenCall) : store.Gives s (opens format dataDir store d calls) := by
  induction calls generalizing d with
  | nil => exact h
  | cons c calls ih =>
    exact ih (((openWith_kept hstore h).imp (fun _ _ he => he.2) fun _ _ hr => hr.1).leaves _)

/-- The seed can still be retrieved from the store, and the next open can only resolve this seed
and does not find the database without its seed. -/
structure SeedSafe (format : SeedFileFormat) (dataDir : Path) (store : SeedStore V) (s : Seed)
    (d : Disk V) : Prop where
  retrievable : store.Gives s d
  resolved : ∀ fresh replies r p,
    resolveWalletSeed format dataDir store true fresh ⟨d, replies⟩ = .ok r p → r.seed = s
  present : ∀ fresh replies e p,
    openWithSeedStore format dataDir store fresh ⟨d, replies⟩ = .error e p → e.Harmless

/-- Once an open has succeeded, its seed is safe after every sequence of further opens. -/
def NeverLost (format : SeedFileFormat) (dataDir : Path) (store : SeedStore V) : Prop :=
  ∀ d fresh replies service p,
    openWithSeedStore format dataDir store fresh ⟨d, replies⟩ = .ok service p →
      ∀ later, SeedSafe format dataDir store service.seed
        (opens format dataDir store p.durable later)

theorem neverLost (hstore : store.Separate format dataDir true) :
    NeverLost format dataDir store := by
  intro d fresh replies service p h later
  have hkept := opens_kept hstore ((openWith_acts hstore).of_ok h) later
  exact ⟨hkept, fun _ _ _ _ hr => ((resolveWalletSeed_kept hstore.cell hkept).of_ok hr).2.1,
    fun _ _ _ _ he => ((openWith_kept hstore hkept).of_error he).1⟩

theorem run_bind {α β : Type} {x : SeedM V α} {f : α → SeedM V β} {p p' : Process Unit (Disk V)}
    {a : α} (h : x p = .ok a p') : (x >>= f) p = f a p' := by
  simp only [bind, EStateM.bind, h]

theorem run_context {α : Type} {x : SeedM V α} {text : String} {p p' : Process Unit (Disk V)}
    {a : α} (h : x p = .ok a p') : context text x p = .ok a p' := by
  simp only [context, onError, h]

theorem run_osCall (effect : Disk V → Disk V) (rest : List (Reply Unit)) :
    osCall effect ⟨d, .returns () :: rest⟩ = .ok () ⟨effect d, rest⟩ := rfl

theorem run_acquire (rest : List (Reply Unit)) :
    acquireWalletWriterLock dataDir ⟨d, .returns () :: .returns () :: rest⟩ =
      .ok () ⟨d.create (walletLockPath dataDir), rest⟩ := rfl

theorem run_readWalletSeed {path : Path} (h : format.Holds path s d) (rest : List (Reply Unit)) :
    readWalletSeed format path ⟨d, .returns () :: rest⟩ = .ok s ⟨d, rest⟩ := by
  obtain ⟨content, hcontent, hdecode⟩ := h
  have hread : readToString path ⟨d, .returns () :: rest⟩ = .ok content ⟨d, rest⟩ := by
    refine (run_bind (run_osCall id rest)).trans ((run_bind rfl).trans ?_)
    simp only [id, hcontent]
    rfl
  refine (run_bind (run_context hread)).trans ?_
  rw [hdecode]
  rfl

/-- An open of a store that gives the seed that `cashu/seed.json` holds removes that file. -/
theorem run_open (hcell : store.DurableCell dataDir) (hgives : store.Gives s d)
    (hholds : format.Holds (cashuWalletSeedPath dataDir) s d) (fresh : Seed) :
    ∃ replies d₁, store.Same (d.create (walletLockPath dataDir)) d₁ ∧
      openWithSeedStore format dataDir store fresh ⟨d, replies⟩ = .ok ⟨dataDir, s⟩
        ⟨(d₁.write (cashuWalletDbPath dataDir) "SQLite format 3").remove
          (cashuWalletSeedPath dataDir), []⟩ := by
  obtain ⟨loading, hloading⟩ := (hcell.lock s d).mpr hgives
  obtain ⟨d₁, hload⟩ := hloading (List.replicate 4 (.returns ()))
  have hsame := ((hcell.loads _).of_ok hload).1
  have hheld : format.Holds (cashuWalletSeedPath dataDir) s d₁ := by
    refine (SeedFileFormat.Holds.congr ?_).mpr hholds
    rw [hsame.files, Disk.create]
    split
    · rfl
    · exact Function.update_of_ne seedPath_ne_lock _ _
  obtain ⟨content, hcontent, -⟩ := id hheld
  refine ⟨List.replicate 3 (.returns ()) ++ (loading ++ List.replicate 4 (.returns ())), d₁, hsame,
    ?_⟩
  have hlegacy : loadLegacySeed format dataDir true ⟨d₁, List.replicate 4 (.returns ())⟩ =
      .ok (some s) ⟨d₁, List.replicate 3 (.returns ())⟩ := by
    refine (run_bind rfl).trans ?_
    simp only [hcontent, Option.isSome_some, Bool.and_self, if_true]
    exact run_bind (run_context (run_readWalletSeed hheld _))
  have hresolve : resolveWalletSeed format dataDir store true fresh
      ⟨d.create (walletLockPath dataDir), loading ++ List.replicate 4 (.returns ())⟩ =
      .ok ⟨s, true⟩ ⟨d₁, List.replicate 3 (.returns ())⟩ := by
    refine (run_bind (run_context hload)).trans ((run_bind hlegacy).trans ?_)
    simp only [ne_eq, not_true_eq_false, if_false]
    rfl
  have hremove : removeFile (cashuWalletSeedPath dataDir)
      ⟨d₁.write (cashuWalletDbPath dataDir) "SQLite format 3", [.returns ()]⟩ =
      .ok () ⟨(d₁.write (cashuWalletDbPath dataDir) "SQLite format 3").remove
        (cashuWalletSeedPath dataDir), []⟩ := by
    refine (run_bind rfl).trans ?_
    have hthere : (d₁.write (cashuWalletDbPath dataDir) "SQLite format 3").files
        (cashuWalletSeedPath dataDir) = some content := by
      rw [← hcontent]
      exact Function.update_of_ne seedPath_ne_db _ _
    simp only [hthere, Option.isSome_some, if_true]
    rfl
  refine (run_bind (run_context (run_osCall id _))).trans ?_
  refine (run_bind (run_acquire _)).trans ?_
  refine (run_bind hresolve).trans ?_
  refine (run_bind (run_context (run_osCall _ _))).trans ?_
  refine (run_bind (run_context (run_osCall id _))).trans ?_
  exact (run_bind (run_context hremove)).trans rfl

theorem survives_of_neverLost (hcell : store.DurableCell dataDir)
    (h : NeverLost format dataDir store) : store.SurvivesMigration format dataDir := by
  intro s d hgives hholds
  obtain ⟨replies, d₁, hsame, hopen⟩ := run_open hcell hgives hholds s
  have hsafe := (h _ _ _ _ _ hopen []).retrievable
  have hswap : (d₁.write (cashuWalletDbPath dataDir) "SQLite format 3").remove
      (cashuWalletSeedPath dataDir) =
      (d₁.remove (cashuWalletSeedPath dataDir)).write (cashuWalletDbPath dataDir)
        "SQLite format 3" := by
    simp only [Disk.write, Disk.remove, Disk.mk.injEq, and_true]
    exact (Function.update_comm seedPath_ne_db _ _ _).symm
  have hlock : (d.create (walletLockPath dataDir)).remove (cashuWalletSeedPath dataDir) =
      (d.remove (cashuWalletSeedPath dataDir)).create (walletLockPath dataDir) := by
    have hsamelock : (d.remove (cashuWalletSeedPath dataDir)).files (walletLockPath dataDir) =
        d.files (walletLockPath dataDir) := Function.update_of_ne seedPath_ne_lock.symm _ _
    simp only [Disk.create, hsamelock]
    split
    · rfl
    · simp only [Disk.write, Disk.remove, Disk.mk.injEq, and_true]
      exact (Function.update_comm seedPath_ne_lock _ _ _).symm
  have hfinal : store.Gives s ((d₁.write (cashuWalletDbPath dataDir) "SQLite format 3").remove
    (cashuWalletSeedPath dataDir)) := hsafe
  rw [hswap, hcell.write, hsame.remove, hlock, hcell.lock] at hfinal
  exact hfinal

end CashuWalletService

namespace FileCashuWalletSeedStore

variable {self : FileCashuWalletSeedStore}

theorem loadSeed_acts :
    Acts (self.loadSeed format) d (fun _ d' => d' = d) fun r d' =>
      d' = d ∧ ∀ s, r = some s ↔ format.Holds self.path s d := by
  refine .peek_bind ?_
  cases hfile : d.files self.path with
  | none => exact .pure ⟨rfl, fun s => by simp [SeedFileFormat.Holds, hfile]⟩
  | some content =>
    refine readWalletSeed_acts.seq fun r d' h => ?_
    obtain ⟨rfl, hholds⟩ := h
    refine .pure ⟨rfl, fun s => ⟨fun hr => Option.some.inj hr ▸ hholds, fun hs => ?_⟩⟩
    rw [hs.unique hholds]

theorem gives_iff : (self.store format V).Gives s d ↔ format.Holds self.path s d := by
  constructor
  · rintro ⟨replies, hload⟩
    obtain ⟨d', hd'⟩ := hload []
    exact ((loadSeed_acts.of_ok hd').2 s).mp rfl
  · intro hholds
    obtain ⟨content, hcontent, -⟩ := id hholds
    refine ⟨[.returns ()], fun rest => ⟨d, (CashuWalletService.run_bind rfl).trans ?_⟩⟩
    simp only [hcontent, Option.isSome_some, if_true]
    exact CashuWalletService.run_bind (CashuWalletService.run_readWalletSeed hholds rest)

theorem storeSeed_acts {seed : Seed} {inv : Disk V → Prop} (hd : inv d)
    (hwrite : d.files self.path = none → ∀ d content, inv d → inv (d.write self.path content)) :
    Acts (self.storeSeed format seed) d (fun _ => inv) fun _ => inv := by
  have hcall : ∀ {d₁ : Disk V} {effect : Disk V → Disk V}, inv d₁ → inv (effect d₁) →
      Acts (osCall effect) d₁ (fun _ => inv) fun _ => inv := fun hbefore hafter =>
    (osCall_acts hbefore hafter).imp (fun _ _ h => h) fun _ _ h => h ▸ hafter
  have hinv : ∀ {α : Type} {x : SeedM V α} {d₁ : Disk V} {text : String},
      Acts x d₁ (fun _ => inv) (fun _ => inv) →
      Acts (context text x) d₁ (fun _ => inv) fun _ => inv := fun h =>
    (context_acts h).imp (fun _ _ h => h.2) fun _ _ h => h
  refine .peek_bind (.ite (fun _ => ?_) fun hnone => ?_)
  · refine (readWalletSeed_acts.imp (fun _ _ h => h ▸ hd) fun _ _ h => h).seq
      fun existing d₁ h => ?_
    obtain ⟨rfl, -⟩ := h
    exact .ite (fun _ => .throw hd) fun _ => .pure hd
  · have hwrite := hwrite (by simpa using hnone)
    refine (hinv (hcall hd hd)).seq fun _ d₁ hd₁ => ?_
    have hencode : Acts (attempt ((format.encode seed).mapError .malformed) : SeedM V String) d₁
        (fun _ => inv) fun _ => inv := fun _ => .attempt (fun _ _ => hd₁) fun _ _ => hd₁
    refine (hinv hencode).seq fun content d₂ hd₂ => ?_
    have hwritten : Acts (writeFile self.path content) d₂ (fun _ => inv) fun _ => inv := by
      refine .call hd₂ (fun _ => hwrite d₂ content hd₂) (fun n _ => ?_) fun n => ?_
      all_goals
        cases n with
        | zero => exact hd₂
        | succ n => exact hwrite d₂ _ hd₂
    exact (hinv hwritten).seq fun _ d₃ hd₃ => hinv (hcall hd₃ hd₃)

theorem durableCell (hdatabase : self.path ∉ cashuWalletDatabaseFiles dataDir)
    (hempty : ∀ s, format.decode "" ≠ .ok s) :
    (self.store format V).DurableCell dataDir where
  loads d := by
    refine loadSeed_acts.imp (fun _ _ h => .of_eq h) fun r d' h => ?_
    obtain ⟨rfl, hr⟩ := h
    exact ⟨.refl d', fun s => (hr s).trans gives_iff.symm⟩
  lock s d := by
    rw [gives_iff, gives_iff]
    unfold Disk.create
    split
    · rfl
    · rename_i hnone
      by_cases hpath : self.path = walletLockPath dataDir
      · have habsent : d.files (walletLockPath dataDir) = none := by simpa using hnone
        simp [SeedFileFormat.Holds, hpath, Disk.write, habsent, hempty s]
      · exact SeedFileFormat.Holds.congr (Function.update_of_ne hpath _ _)
  database s d d' _ hfiles := by
    rw [gives_iff, gives_iff, SeedFileFormat.Holds.congr (hfiles _ hdatabase)]
  legacy seed d content hcontent := by
    refine (storeSeed_acts hcontent fun hnone d' text hd' => ?_).imp (fun _ _ _ => trivial)
      fun _ _ h => h
    refine (Function.update_of_ne ?_ _ _).trans hd'
    rintro heq
    rw [← heq, hcontent] at hnone
    contradiction

theorem survivesMigration_iff (hformat : ∃ s content, format.decode content = .ok s) :
    (self.store format V).SurvivesMigration format dataDir ↔
      Nonempty V → self.path ≠ cashuWalletSeedPath dataDir := by
  simp only [SeedStore.SurvivesMigration, gives_iff]
  constructor
  · rintro h ⟨vault⟩ hpath
    obtain ⟨s, content, hdecode⟩ := hformat
    have hholds : format.Holds (cashuWalletSeedPath dataDir) s
        (⟨fun _ => some content, vault⟩ : Disk V) := ⟨content, rfl, hdecode⟩
    obtain ⟨left, hleft, -⟩ := h s _ (hpath ▸ hholds) hholds
    rw [hpath] at hleft
    simp [Disk.remove] at hleft
  · intro hpath s d hholds _
    exact (SeedFileFormat.Holds.congr (Function.update_of_ne (hpath ⟨d.vault⟩) _ _)).mpr hholds

/-- The seed of a wallet is safe in a file unless the path of the store leads to the file that a
migration removes. -/
theorem neverLost_iff (resolve : String → Path) (path : String) [Nonempty V]
    (hdatabase : resolve path ∉ cashuWalletDatabaseFiles dataDir)
    (hempty : ∀ s, format.decode "" ≠ .ok s)
    (hformat : ∃ s content, format.decode content = .ok s) :
    CashuWalletService.NeverLost format dataDir ((new resolve path).store format V) ↔
      resolve path ≠ cashuWalletSeedPath dataDir := by
  have hcell : ((new resolve path).store format V).DurableCell dataDir :=
    durableCell hdatabase hempty
  have hsurvives := @survivesMigration_iff V format dataDir (new resolve path) hformat
  refine ⟨fun h => ?_, fun h => ?_⟩
  · exact hsurvives.mp (CashuWalletService.survives_of_neverLost hcell h) inferInstance
  · exact CashuWalletService.neverLost ⟨hcell, fun _ => hsurvives.mpr fun _ => h⟩

end FileCashuWalletSeedStore

namespace CashuWalletService

def platformSeedStore : SeedStore (Option Seed) where
  loadSeed := do
    osQuery
    peek fun d => d.vault
  storeSeed seed := osCall fun d => { d with vault := some seed }

theorem platform_gives {d : Disk (Option Seed)} :
    platformSeedStore.Gives s d ↔ d.vault = some s := by
  constructor
  · rintro ⟨replies, hload⟩
    obtain ⟨d', hd'⟩ := hload []
    have hends : Acts platformSeedStore.loadSeed d (fun _ _ => True)
        fun r _ => r = d.vault :=
      (osQuery_acts.imp (fun _ _ _ => trivial) fun _ _ h => h).seq fun _ _ h => .peek (h ▸ rfl)
    exact (hends.of_ok hd').symm
  · intro hvault
    exact ⟨[.returns ()], fun rest => ⟨d, (run_bind (run_osCall id rest)).trans
      (by rw [← hvault]; rfl)⟩⟩

theorem platform_durableCell (dataDir : Path) : platformSeedStore.DurableCell dataDir where
  loads d := by
    refine (osQuery_acts.imp (fun _ _ h => .of_eq h) fun _ _ h => h).seq fun _ d' h => ?_
    subst h
    exact .peek ⟨.refl d', fun s => platform_gives.symm⟩
  lock s d := by
    rw [platform_gives, platform_gives, Disk.create]
    split <;> rfl
  database s d d' hvault _ := by rw [platform_gives, platform_gives, hvault]
  legacy seed d content hcontent := by
    have hstored : Acts (osCall fun d => { d with vault := some seed }) d (fun _ _ => True)
        fun _ d' => d' = { d with vault := some seed } := osCall_acts trivial trivial
    refine hstored.imp (fun _ _ h => h) fun _ d' h => ?_
    rw [h]
    exact hcontent

theorem platform_survives (format : SeedFileFormat) (dataDir : Path) :
    platformSeedStore.SurvivesMigration format dataDir := by
  intro s d h _
  have hvault : d.vault = some s := platform_gives.mp h
  exact platform_gives.mpr hvault

def newDisk {V : Type} (vault : V) : Disk V := ⟨fun _ => none, vault⟩

def zeroSeed : Seed := Vector.replicate 64 0

def zeroSeedText : String :=
  "\x7b\n  \"version\": 1,\n  \"seed_hex\": \"" ++ String.ofList (List.replicate 128 '0') ++
    "\"\n\x7d"

def zeroFormat : SeedFileFormat where
  encode s := if s = zeroSeed then .ok zeroSeedText else .error "another seed"
  decode content := if content = zeroSeedText then .ok zeroSeed else .error "another text"

end CashuWalletService
end CashuService

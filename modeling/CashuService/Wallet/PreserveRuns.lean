import CashuService.Wallet.PreserveSafety
set_option autoImplicit false

namespace CashuService

variable {V : Type} {format : SeedFileFormat} {dataDir : Path} {store : SeedStore V}
  {migrate : Bool} {uuid : String} {d d' : Disk V} {fresh : Seed}

section

variable {inv : Disk V → Prop}

theorem context_inv {α : Type} {x : SeedM V α} {text : String}
    (h : Acts x d (fun _ => inv) fun _ => inv) :
    Acts (context text x) d (fun _ => inv) fun _ => inv :=
  (context_acts h).imp (fun _ _ he => he.2) fun _ _ hr => hr

theorem osCall_inv {effect : Disk V → Disk V} (hd : inv d) (heffect : inv (effect d)) :
    Acts (osCall effect) d (fun _ => inv) fun _ => inv :=
  (osCall_acts hd heffect).imp (fun _ _ he => he) fun _ _ hr => hr ▸ heffect

variable (hload : ∀ d, inv d → Acts store.loadSeed d (fun _ => inv) fun _ => inv)
  (hstore : ∀ seed d, inv d → Acts (store.storeSeed seed) d (fun _ => inv) fun _ => inv)

include hload hstore

theorem storeVerified_inv {seed : Seed} {storing verifying : String} (hd : inv d) :
    Acts (storeVerified store seed storing verifying) d (fun _ => inv) fun _ => inv := by
  refine (context_inv (hstore seed d hd)).seq fun _ d₁ hd₁ => ?_
  refine (context_inv (hload d₁ hd₁)).seq fun verified d₂ hd₂ => ?_
  exact .ite (fun _ => .throw hd₂) fun _ => .pure hd₂

theorem resolveWalletSeed_inv (hd : inv d) :
    Acts (resolveWalletSeed format dataDir store migrate fresh) d (fun _ => inv) fun _ => inv := by
  refine (context_inv (hload d hd)).seq fun stored d₁ hd₁ => ?_
  refine (loadLegacySeed_acts.imp (fun _ _ he => he.2 ▸ hd₁) fun _ _ hr => hr).seq ?_
  rintro legacy d₂ ⟨rfl, -⟩
  cases stored with
  | some seed =>
    cases legacy with
    | none => exact .pure hd₁
    | some legacy => exact .ite (fun _ => .throw hd₁) fun _ => .pure hd₁
  | none =>
    cases legacy with
    | some legacy => exact (storeVerified_inv hload hstore hd₁).seq fun _ _ hd' => .pure hd'
    | none =>
      refine .peek_bind (.ite (fun _ => .throw hd₁) fun _ => ?_)
      exact (storeVerified_inv hload hstore hd₁).seq fun _ _ hd' => .pure hd'

/-- What creating the lock file, loading and storing a seed, opening the database and removing the
legacy seed leave alone is left alone by an open. -/
theorem openWith_inv (hd : inv d) (hcreate : ∀ d, inv d → inv (d.create (walletLockPath dataDir)))
    (hopen : ∀ d content, inv d → inv (d.write (cashuWalletDbPath dataDir) content))
    (hremove : ∀ d, inv d → inv (d.remove (cashuWalletSeedPath dataDir))) :
    Acts (CashuWalletService.openWith format dataDir store migrate fresh) d (fun _ => inv)
      fun _ => inv := by
  refine (context_inv (osCall_inv hd hd)).seq fun _ d₁ hd₁ => ?_
  refine ((acquireWalletWriterLock_acts inv hd₁ (hcreate d₁ hd₁)).imp (fun _ _ he => he.2)
    fun _ _ hr => hr).seq fun _ d₂ hd₂ => ?_
  refine (resolveWalletSeed_inv hload hstore hd₂).seq fun resolved d₃ hd₃ => ?_
  refine (context_inv (osCall_inv hd₃ (hopen d₃ _ hd₃))).seq fun _ d₄ hd₄ => ?_
  refine (context_inv (osCall_inv hd₄ hd₄)).seq fun _ d₅ hd₅ => ?_
  have hfinalize : Acts (finalizeLegacySeedMigration dataDir resolved) d₅ (fun _ => inv)
      fun _ => inv := by
    refine .ite (fun _ => context_inv (.peek_bind (.ite (fun _ => ?_) fun _ => .pure hd₅)))
      fun _ => .pure hd₅
    exact osCall_inv hd₅ (hremove d₅ hd₅)
  exact hfinalize.seq fun _ _ hd₆ => .pure hd₆

end

def SameRecovery (dataDir : Path) (uuid : String) (d d' : Disk V) : Prop :=
  ∀ name, d'.files (walletRecoveryDir dataDir uuid ++ [name]) =
    d.files (walletRecoveryDir dataDir uuid ++ [name])

/-- A store of seeds that is not in the way of the database, nor of what is moved away: it keeps its
seed whatever becomes of these files, and writes none of those that were moved. -/
structure SeedStore.Apart (store : SeedStore V) (format : SeedFileFormat) (dataDir : Path)
    (migrate : Bool) : Prop extends store.Separate format dataDir migrate where
  elsewhere : ∀ s (d d' : Disk V), d'.vault = d.vault →
    (∀ path ∉ cashuWalletDatabaseFiles dataDir,
      (∀ uuid name, walletRecoveryDir dataDir uuid ++ [name] ≠ path) →
        d'.files path = d.files path) →
    (store.Gives s d' ↔ store.Gives s d)
  untouched : ∀ seed (d : Disk V) uuid, Acts (store.storeSeed seed) d
    (fun _ => SameRecovery dataDir uuid d) fun _ => SameRecovery dataDir uuid d

theorem SameRecovery.refl (d : Disk V) : SameRecovery dataDir uuid d d := fun _ => rfl

theorem SameRecovery.trans {d₁ : Disk V} (h : SameRecovery dataDir uuid d d₁)
    (h' : SameRecovery dataDir uuid d₁ d') : SameRecovery dataDir uuid d d' :=
  fun name => (h' name).trans (h name)

theorem SameRecovery.update {d₁ : Disk V} {path : Path} {content : Option String}
    (h : SameRecovery dataDir uuid d d₁)
    (hpath : ∀ name, walletRecoveryDir dataDir uuid ++ [name] ≠ path) :
    SameRecovery dataDir uuid d { d₁ with files := Function.update d₁.files path content } :=
  fun name => (Function.update_of_ne (hpath name) _ _).trans (h name)

theorem SameRecovery.unused (h : SameRecovery dataDir uuid d d') (hfree : d.Unused dataDir uuid) :
    d'.Unused dataDir uuid := fun name => (h name).trans (hfree name)

theorem recovery_ne {path : Path} (h : path.length < dataDir.length + 4) (name : String) :
    walletRecoveryDir dataDir uuid ++ [name] ≠ path := by
  rintro rfl
  simp [walletRecoveryDir, cashuWalletDir] at h

theorem openWith_sameRecovery (hstore : store.Apart format dataDir migrate) :
    Acts (CashuWalletService.openWith format dataDir store migrate fresh) d
      (fun _ => SameRecovery dataDir uuid d) fun _ => SameRecovery dataDir uuid d := by
  refine openWith_inv (fun d₁ h => ?_) (fun seed d₁ h => ?_) (.refl d) (fun d₁ h => ?_)
    (fun d₁ content h => ?_) fun d₁ h => ?_
  · have hread : ∀ {d₂}, store.Same d₁ d₂ → SameRecovery dataDir uuid d d₂ := fun hsame name =>
      (congrFun hsame.files _).trans (h name)
    exact (hstore.cell.loads d₁).imp (fun _ _ he => hread he) fun _ _ hr => hread hr.1
  · exact (hstore.untouched seed d₁ uuid).imp (fun _ _ he => h.trans he) fun _ _ hr => h.trans hr
  · unfold Disk.create
    split
    · exact h
    · exact h.update (recovery_ne (by simp [walletLockPath, cashuWalletDir]))
  · exact h.update (recovery_ne (by simp [cashuWalletDbPath, cashuWalletDir]))
  · exact h.update (recovery_ne (by simp [cashuWalletSeedPath, cashuWalletDir]))

/-- What is done with a wallet directory: it is opened, CDK works on the database, or the database
is preserved. The lock of the wallet lets one step follow the other. -/
inductive WalletStep where
  | openWith (fresh : Seed)
  | operate (content : Path → Option String)
  | preserve (uuid : String)

namespace WalletStep

def recoveryUuid : WalletStep → Option String
  | .preserve uuid => some uuid
  | _ => none

variable (format : SeedFileFormat) (dataDir : Path) (store : SeedStore V) (migrate : Bool)

/-- The disk after a step that may have been stopped. -/
def exec (d : Disk V) (step : WalletStep × List (Reply Unit)) : Disk V :=
  match step.1 with
  | .openWith fresh =>
    leaves (CashuWalletService.openWith format dataDir store migrate fresh ⟨d, step.2⟩)
  | .operate content =>
    { d with files := fun path =>
        if path ∈ cashuWalletDatabaseFiles dataDir then content path else d.files path }
  | .preserve uuid => leaves (preserveCashuWalletDatabase dataDir uuid ⟨d, step.2⟩)

def after (d : Disk V) (steps : List (WalletStep × List (Reply Unit))) : Disk V :=
  steps.foldl (exec format dataDir store migrate) d

end WalletStep

theorem Preserves.sameRecovery {result : EStateM.Result PreserveError (Process Unit (Disk V))
    (Option Path)} {gone : Set String} {other : String} (h : Preserves dataDir uuid d result gone)
    (hother : other ≠ uuid) : SameRecovery dataDir other d (leaves result) := by
  intro name
  obtain ⟨base, hbegun, hmoved⟩ := h.moved
  have helsewhere : ∀ n, (recoveryPlaces dataDir uuid).source n ≠
      walletRecoveryDir dataDir other ++ [name] ∧ (recoveryPlaces dataDir uuid).target n ≠
      walletRecoveryDir dataDir other ++ [name] := by
    intro n
    refine ⟨(recoveryPlaces dataDir other).apart n name, ?_⟩
    simp only [recoveryPlaces, walletRecoveryDir]
    intro heq
    simp only [List.append_assoc, List.append_cancel_left_eq, List.cons_append, List.cons.injEq]
      at heq
    exact hother heq.2.1.symm
  rw [hmoved.files.elsewhere _ helsewhere]
  rcases hbegun with rfl | rfl
  · rfl
  · exact Disk.create_of_ne (by simp [walletLockPath, walletRecoveryDir])

theorem Preserves.keeps {result : EStateM.Result PreserveError (Process Unit (Disk V))
    (Option Path)} {gone : Set String} {s : Seed} (h : Preserves dataDir uuid d result gone)
    (hstore : store.Apart format dataDir migrate) (hs : store.Gives s d) :
    store.Gives s (leaves result) := by
  obtain ⟨base, hbegun, hmoved⟩ := h.moved
  have hbase : store.Gives s base := by
    rcases hbegun with rfl | rfl
    · exact hs
    · exact (hstore.cell.lock s d).mpr hs
  refine (hstore.elsewhere s base _ hmoved.vault fun path hdatabase hrecovery => ?_).mpr hbase
  by_cases hsource : ∃ n, (recoveryPlaces dataDir uuid).source n = path
  · obtain ⟨n, rfl⟩ := hsource
    refine (hmoved.files.here n fun hgone => hdatabase ?_).1
    rw [databaseFiles_eq]
    exact List.mem_map_of_mem (h.found hgone).1
  · exact hmoved.files.elsewhere path fun n => ⟨fun heq => hsource ⟨n, heq⟩, hrecovery uuid n⟩

variable {step : WalletStep × List (Reply Unit)}

theorem exec_sameRecovery (hstore : store.Apart format dataDir migrate)
    (huuid : step.1.recoveryUuid ≠ some uuid)
    (hfree : ∀ own, step.1.recoveryUuid = some own → d.Unused dataDir own) :
    SameRecovery dataDir uuid d (WalletStep.exec format dataDir store migrate d step) := by
  obtain ⟨step, replies⟩ := step
  cases step with
  | openWith fresh => exact (openWith_sameRecovery hstore).leaves replies
  | operate content =>
    refine fun name => if_neg fun hmem => ?_
    rw [databaseFiles_eq] at hmem
    obtain ⟨other, -, heq⟩ := List.mem_map.mp hmem
    exact (recoveryPlaces dataDir uuid).apart other name heq
  | preserve own =>
    obtain ⟨gone, hgone⟩ := preserve_preserves (hfree own rfl) replies
    exact hgone.sameRecovery fun heq => huuid (heq ▸ rfl)

theorem exec_keeps {s : Seed} (hstore : store.Apart format dataDir migrate)
    (hfree : ∀ own, step.1.recoveryUuid = some own → d.Unused dataDir own) (hs : store.Gives s d) :
    store.Gives s (WalletStep.exec format dataDir store migrate d step) := by
  obtain ⟨step, replies⟩ := step
  cases step with
  | openWith fresh =>
    exact ((CashuWalletService.openWith_kept hstore.toSeparate hs).imp (fun _ _ he => he.2)
      fun _ _ hr => hr.1).leaves replies
  | operate content =>
    have hfiles : ∀ path ∉ cashuWalletDatabaseFiles dataDir, (WalletStep.exec format dataDir store
        migrate d (.operate content, replies)).files path = d.files path := fun path hpath =>
      if_neg hpath
    exact (hstore.cell.database s d (WalletStep.exec format dataDir store migrate d
      (.operate content, replies)) rfl hfiles).mpr hs
  | preserve own =>
    obtain ⟨gone, hgone⟩ := preserve_preserves (hfree own rfl) replies
    exact hgone.keeps hstore hs

/-- The steps use each directory for one preservation, and find it empty. -/
structure FreshDirs (dataDir : Path) (d : Disk V) (steps : List (WalletStep × List (Reply Unit))) :
    Prop where
  distinct : (steps.filterMap fun step => step.1.recoveryUuid).Nodup
  unused : ∀ uuid ∈ steps.filterMap fun step => step.1.recoveryUuid, d.Unused dataDir uuid

theorem FreshDirs.next {steps : List (WalletStep × List (Reply Unit))}
    (hstore : store.Apart format dataDir migrate) (h : FreshDirs dataDir d (step :: steps)) :
    (∀ own, step.1.recoveryUuid = some own → d.Unused dataDir own) ∧
      FreshDirs dataDir (WalletStep.exec format dataDir store migrate d step) steps := by
  have hown : ∀ own, step.1.recoveryUuid = some own → d.Unused dataDir own := fun own hstep =>
    h.unused own (by simp [hstep])
  have hdistinct := h.distinct
  refine ⟨hown, ?_, fun other hother => ?_⟩
  · cases hstep : step.1.recoveryUuid with
    | none => simpa [hstep] using hdistinct
    | some own =>
      simp only [List.filterMap_cons, hstep] at hdistinct
      exact (List.nodup_cons.mp hdistinct).2
  · have hne : step.1.recoveryUuid ≠ some other := by
      intro hstep
      simp only [List.filterMap_cons, hstep] at hdistinct
      exact (List.nodup_cons.mp hdistinct).1 hother
    obtain ⟨later, hlater, hsome⟩ := List.mem_filterMap.mp hother
    exact (exec_sameRecovery hstore hne hown).unused
      (h.unused other (List.mem_filterMap.mpr ⟨later, List.mem_cons_of_mem _ hlater, hsome⟩))

theorem after_kept {steps : List (WalletStep × List (Reply Unit))}
    (hstore : store.Apart format dataDir migrate) (h : FreshDirs dataDir d steps) :
    (∀ uuid, (∀ step ∈ steps, step.1.recoveryUuid ≠ some uuid) →
      SameRecovery dataDir uuid d (WalletStep.after format dataDir store migrate d steps)) ∧
    ∀ s, store.Gives s d →
      store.Gives s (WalletStep.after format dataDir store migrate d steps) := by
  induction steps generalizing d with
  | nil => exact ⟨fun _ _ => .refl d, fun _ hs => hs⟩
  | cons step steps ih =>
    obtain ⟨hown, hnext⟩ := h.next hstore
    obtain ⟨hrecovery, hseeds⟩ := ih hnext
    refine ⟨fun uuid huuid => ?_, fun s hs => hseeds s (exec_keeps hstore hown hs)⟩
    have hfirst := huuid step List.mem_cons_self
    exact (exec_sameRecovery hstore hfirst hown).trans
      (hrecovery uuid fun later hlater => huuid later (List.mem_cons_of_mem _ hlater))

theorem FreshDirs.after
    {earlier later : List (WalletStep × List (Reply Unit))}
    (hstore : store.Apart format dataDir migrate) (h : FreshDirs dataDir d (earlier ++ later)) :
    FreshDirs dataDir (WalletStep.after format dataDir store migrate d earlier) later := by
  induction earlier generalizing d with
  | nil => exact h
  | cons step earlier ih => exact ih (h.next hstore).2

theorem WalletStep.after_append (earlier later : List (WalletStep × List (Reply Unit))) :
    WalletStep.after format dataDir store migrate d (earlier ++ later) =
      WalletStep.after format dataDir store migrate
        (WalletStep.after format dataDir store migrate d earlier) later :=
  List.foldl_append

/-- A preservation loses no file, whatever comes before and after it, and no seed. -/
theorem preservation_loses_nothing (hstore : store.Apart format dataDir migrate)
    (earlier later : List (WalletStep × List (Reply Unit))) (replies : List (Reply Unit))
    (hfresh : FreshDirs dataDir d (earlier ++ (.preserve uuid, replies) :: later)) :
    ∃ gone,
      Preserves dataDir uuid (WalletStep.after format dataDir store migrate d earlier)
        (preserveCashuWalletDatabase dataDir uuid
          ⟨WalletStep.after format dataDir store migrate d earlier, replies⟩) gone ∧
      SameRecovery dataDir uuid
        (WalletStep.after format dataDir store migrate d (earlier ++ [(.preserve uuid, replies)]))
        (WalletStep.after format dataDir store migrate d
          (earlier ++ (.preserve uuid, replies) :: later)) ∧
      ∀ s, store.Gives s (WalletStep.after format dataDir store migrate d earlier) →
        store.Gives s (WalletStep.after format dataDir store migrate d
          (earlier ++ (.preserve uuid, replies) :: later)) := by
  have hfound := hfresh.after hstore
  obtain ⟨hown, hnext⟩ := hfound.next hstore
  obtain ⟨gone, hgone⟩ := preserve_preserves (hown uuid rfl) replies
  obtain ⟨hrecovery, hseeds⟩ := after_kept hstore hnext
  simp only [WalletStep.after_append]
  refine ⟨gone, hgone, hrecovery uuid fun step hstep hsome => ?_, fun s hs => ?_⟩
  · exact (List.nodup_cons.mp hfound.distinct).1 (List.mem_filterMap.mpr ⟨step, hstep, hsome⟩)
  · exact hseeds s (hgone.keeps hstore hs)

open CashuWalletService

theorem platform_apart : platformSeedStore.Apart format dataDir migrate where
  cell := platform_durableCell dataDir
  survives _ := platform_survives format dataDir
  elsewhere s d d' hvault _ := by rw [platform_gives, platform_gives, hvault]
  untouched seed d uuid := by
    change Acts (osCall fun d => { d with vault := some seed }) d _ _
    exact osCall_inv (SameRecovery.refl d) fun _ => rfl

def unhindered : List (Reply Unit) := List.replicate 20 (.returns ())

def stoppedReplies : List (Reply Unit) := List.replicate 5 (.returns ()) ++ [.stops 1]

def sampleEarlierSteps : List (WalletStep × List (Reply Unit)) :=
  [(.openWith zeroSeed, unhindered), (.operate fun _ => some "SQLite format 3", [])]

/-- It is opened again, and what it has by then is preserved as well. -/
def sampleLaterSteps : List (WalletStep × List (Reply Unit)) :=
  [(.openWith zeroSeed, unhindered), (.preserve "c2d4", unhindered)]

def sampleDisk (steps : List (WalletStep × List (Reply Unit))) : Disk (Option Seed) :=
  WalletStep.after zeroFormat ["data"] platformSeedStore true (newDisk none) steps

theorem preservation_loses_nothing_sample :
    ∃ gone,
      Preserves ["data"] "b3f1" (sampleDisk sampleEarlierSteps)
        (preserveCashuWalletDatabase ["data"] "b3f1" ⟨sampleDisk sampleEarlierSteps, stoppedReplies⟩)
        gone ∧
      SameRecovery ["data"] "b3f1"
        (sampleDisk (sampleEarlierSteps ++ [(.preserve "b3f1", stoppedReplies)]))
        (sampleDisk (sampleEarlierSteps ++ (.preserve "b3f1", stoppedReplies) ::
          sampleLaterSteps)) ∧
      ∀ s, platformSeedStore.Gives s (sampleDisk sampleEarlierSteps) →
        platformSeedStore.Gives s (sampleDisk
          (sampleEarlierSteps ++ (.preserve "b3f1", stoppedReplies) :: sampleLaterSteps)) := by
  have hfresh : FreshDirs ["data"] (newDisk none : Disk (Option Seed))
      (sampleEarlierSteps ++ (.preserve "b3f1", stoppedReplies) :: sampleLaterSteps) :=
    ⟨by decide, fun _ _ _ => rfl⟩
  exact preservation_loses_nothing platform_apart _ _ _ hfresh

end CashuService

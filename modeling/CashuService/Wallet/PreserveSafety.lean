import CashuService.Wallet.Preserve
set_option autoImplicit false

namespace CashuService

def walletDatabaseNames : List String :=
  ["wallet.sqlite", "wallet.sqlite-wal", "wallet.sqlite-shm", "wallet.sqlite-journal"]

/-- Where the files of a wallet directory are, and where a preservation moves them to. -/
def recoveryPlaces (dataDir : Path) (uuid : String) : Places String Path where
  source name := cashuWalletDir dataDir ++ [name]
  target name := walletRecoveryDir dataDir uuid ++ [name]
  source_injective m n h := by simpa using h
  target_injective m n h := by simpa using h
  apart m n h := by simp [walletRecoveryDir] at h

variable {V : Type} {dataDir : Path} {uuid name : String} {d d₁ d' : Disk V} {gone : Set String}

structure Disk.Relocated (dataDir : Path) (uuid : String) (gone : Set String) (d d' : Disk V) :
    Prop where
  files : (recoveryPlaces dataDir uuid).Relocated gone d.files d'.files
  vault : d'.vault = d.vault

namespace Disk.Relocated

theorem refl (d : Disk V) : d.Relocated dataDir uuid ∅ d := ⟨.refl d.files, rfl⟩

theorem forth (h : d.Relocated dataDir uuid gone d₁) (hname : name ∉ gone) :
    d.Relocated dataDir uuid (insert name gone)
      (d₁.relocate (cashuWalletDir dataDir ++ [name]) (walletRecoveryDir dataDir uuid ++ [name])) :=
  ⟨h.files.forth hname, h.vault⟩

theorem back (h : d.Relocated dataDir uuid gone d₁) (hname : name ∈ gone)
    (hfree : d.files (walletRecoveryDir dataDir uuid ++ [name]) = none) :
    d.Relocated dataDir uuid (gone \ {name})
      (d₁.relocate (walletRecoveryDir dataDir uuid ++ [name]) (cashuWalletDir dataDir ++ [name])) :=
  ⟨h.files.back hname hfree, h.vault⟩

end Disk.Relocated

theorem onSeed_acts {α : Type} {x : SeedM V α} {err : SeedError → Disk V → Prop}
    {ok : α → Disk V → Prop} (h : Acts x d err ok) :
    Acts (onSeed x) d (fun e d' => ∃ cause, e = .seed cause ∧ err cause d') ok := by
  intro replies
  have hx := h replies
  unfold Ends at hx ⊢
  unfold onSeed
  cases hr : x ⟨d, replies⟩ with
  | ok a p =>
    rw [hr] at hx
    exact hx
  | error e p =>
    rw [hr] at hx
    exact ⟨e, rfl, hx⟩

theorem renameFile_acts {source destination : Path} :
    Acts (renameFile source destination) d
      (fun e d' => e = .stopped ∧ (d' = d ∨ d' = d.relocate source destination))
      fun r d' => r = .ok () ∧ d' = d.relocate source destination ∨
        ∃ message, r = .error message ∧ d' = d := by
  refine .peek_bind (.ite (fun _ => ?_) fun _ => .pure (.inr ⟨_, rfl, rfl⟩))
  refine .tryCall ⟨rfl, .inl rfl⟩ (fun _ => .inl ⟨rfl, rfl⟩)
    (fun message => .inr ⟨message, rfl, rfl⟩)
    fun n => ⟨rfl, ?_⟩
  by_cases hn : n = 0
  · rw [if_pos hn]
    exact .inl rfl
  · rw [if_neg hn]
    exact .inr rfl

/-- Where the file of a name comes from and goes to. -/
def fileMove (dataDir : Path) (uuid name : String) : Path × Path :=
  (cashuWalletDir dataDir ++ [name], walletRecoveryDir dataDir uuid ++ [name])

def Disk.Unused (d : Disk V) (dataDir : Path) (uuid : String) : Prop :=
  ∀ name, d.files (walletRecoveryDir dataDir uuid ++ [name]) = none

theorem rollBack_acts {names : List String} (hfree : d.Unused dataDir uuid) (hnodup : names.Nodup)
    (hnames : ∀ name ∈ names, name ∈ gone) (h : d.Relocated dataDir uuid gone d₁) :
    Acts (rollBack (names.map (fileMove dataDir uuid))) d₁
      (fun e d' => e = .stopped ∧ ∃ gone' ⊆ gone, d.Relocated dataDir uuid gone' d')
      fun errors d' => ∃ failed ⊆ names,
        errors.map Prod.fst = failed.map (fun name => cashuWalletDir dataDir ++ [name]) ∧
        d.Relocated dataDir uuid (gone \ {name | name ∈ names} ∪ {name | name ∈ failed}) d' := by
  induction names generalizing gone d₁ with
  | nil => exact .pure ⟨[], List.Subset.refl _, rfl, by simpa using h⟩
  | cons name names ih =>
    have hname : name ∈ gone := hnames name List.mem_cons_self
    have hrest : ∀ other ∈ names, other ∈ gone := fun other hother =>
      hnames other (List.mem_cons_of_mem _ hother)
    obtain ⟨hnew, hnodup⟩ := List.nodup_cons.mp hnodup
    have hback := h.back hname (hfree name)
    refine (renameFile_acts.imp (fun e d' he => ?_) fun _ _ hr => hr).seq ?_
    · obtain ⟨hstopped, rfl | rfl⟩ := he
      · exact ⟨hstopped, gone, Set.Subset.rfl, h⟩
      · exact ⟨hstopped, gone \ {name}, Set.sdiff_subset, hback⟩
    · rintro r d₂ (⟨rfl, rfl⟩ | ⟨message, rfl, rfl⟩)
      · have hothers : ∀ other ∈ names, other ∈ gone \ {name} := fun other hother =>
          ⟨hrest other hother, fun heq => hnew (heq ▸ hother)⟩
        refine (ih hnodup hothers hback).imp (fun e d' he => ?_) fun errors d' hr => ?_
        · obtain ⟨hstopped, gone', hsub, hgone'⟩ := he
          exact ⟨hstopped, gone', hsub.trans Set.sdiff_subset, hgone'⟩
        · obtain ⟨failed, hsub, herrors, hd'⟩ := hr
          refine ⟨failed, List.subset_cons_of_subset _ hsub, herrors, ?_⟩
          convert hd' using 1
          ext other
          simp only [Set.mem_union, Set.mem_sdiff, Set.mem_ofPred_eq, List.mem_cons,
            Set.mem_singleton_iff]
          tauto
      · refine (ih hnodup hrest h).seq fun errors d' hr => ?_
        obtain ⟨failed, hsub, herrors, hd'⟩ := hr
        refine .pure ⟨name :: failed, List.cons_subset_cons _ hsub, by simp [herrors], ?_⟩
        convert hd' using 1
        ext other
        simp only [Set.mem_union, Set.mem_sdiff, Set.mem_ofPred_eq, List.mem_cons]
        constructor
        · rintro (⟨hgone, hother⟩ | rfl | hfailed)
          · exact .inl ⟨hgone, fun hmem => hother (.inr hmem)⟩
          · exact .inl ⟨hname, hnew⟩
          · exact .inr hfailed
        · rintro (⟨hgone, hother⟩ | hfailed)
          · by_cases heq : other = name
            · exact .inr (.inl heq)
            · exact .inl ⟨hgone, fun hmem => hmem.elim heq hother⟩
          · exact .inr (.inr hfailed)

/-- What an error says about the files that are left in the recovery directory. -/
def PreserveError.Leaves (dataDir : Path) (gone : Set String) : PreserveError → Prop
  | .seed cause => cause = .stopped ∨ gone = ∅
  | .noFileName => False
  | .moveFailed _ _ => gone = ∅
  | .rollbackFailed _ _ rollbackErrors => gone.Nonempty ∧
      gone = {name | cashuWalletDir dataDir ++ [name] ∈ rollbackErrors.map Prod.fst}

theorem rolledBack_acts {moved : List String} {source : Path} {moveError : String}
    (hfree : d.Unused dataDir uuid) (hnodup : moved.Nodup)
    (h : d.Relocated dataDir uuid {name | name ∈ moved} d₁) :
    Acts (do
      let rollbackErrors ← rollBack (moved.map (fileMove dataDir uuid)).reverse
      removeDir
      if rollbackErrors = [] then throw (.moveFailed source moveError)
      else throw (.rollbackFailed source moveError rollbackErrors) : PreserveM V Unit) d₁
      (fun e d' => ∃ gone ⊆ {name | name ∈ moved}, d.Relocated dataDir uuid gone d' ∧
        e.Leaves dataDir gone)
      fun _ _ => False := by
  have hnames : ∀ name ∈ moved.reverse, name ∈ {name | name ∈ moved} := fun name hname =>
    List.mem_reverse.mp hname
  have hback := rollBack_acts hfree (List.nodup_reverse.mpr hnodup) hnames h
  rw [List.map_reverse] at hback
  refine (hback.imp (fun e d' he => ?_) fun _ _ hr => hr).seq ?_
  · obtain ⟨rfl, gone, hsub, hgone⟩ := he
    exact ⟨gone, hsub, hgone, .inl rfl⟩
  rintro errors d₂ ⟨failed, hsub, herrors, hd₂⟩
  have hgone : ({name | name ∈ moved} \ {name | name ∈ moved.reverse} ∪
      {name | name ∈ failed} : Set String) = {name | name ∈ failed} := by
    ext other
    simp
  rw [hgone] at hd₂
  have hfailed : ({name | name ∈ failed} : Set String) ⊆ {name | name ∈ moved} := fun name hname =>
    List.mem_reverse.mp (hsub hname)
  have hnamed : ({name | name ∈ failed} : Set String) =
      {name | cashuWalletDir dataDir ++ [name] ∈ errors.map Prod.fst} := by
    ext other
    simp [herrors]
  have hremove : Acts removeDir d₂ (fun e d' => e = .stopped ∧ d' = d₂) fun _ d' => d' = d₂ :=
    .seq (.tryCall ⟨rfl, rfl⟩ (fun _ => rfl) (fun _ => rfl) fun _ => ⟨rfl, rfl⟩)
      fun _ _ h => .pure h
  refine (hremove.imp (fun e d' he => ?_) fun _ _ hr => hr).seq fun _ d₃ hd₃ => ?_
  · obtain ⟨rfl, rfl⟩ := he
    exact ⟨_, hfailed, hd₂, .inl rfl⟩
  subst hd₃
  refine .ite (fun hnone => .throw ⟨_, hfailed, hd₂, ?_⟩) fun hsome =>
    .throw ⟨_, hfailed, hd₂, ?_, hnamed⟩
  · simp only [PreserveError.Leaves, hnamed, hnone]
    simp
  · obtain ⟨name, hname⟩ := List.exists_mem_of_ne_nil failed (by
      rintro rfl
      exact hsome (List.map_eq_nil_iff.mp herrors))
    exact ⟨name, hname⟩

theorem moveFiles_acts {moved rest : List String} (hfree : d.Unused dataDir uuid)
    (hnodup : (moved ++ rest).Nodup) (h : d.Relocated dataDir uuid {name | name ∈ moved} d₁) :
    Acts (moveFiles (walletRecoveryDir dataDir uuid)
        (rest.map fun name => cashuWalletDir dataDir ++ [name])
        (moved.map (fileMove dataDir uuid))) d₁
      (fun e d' => ∃ gone ⊆ {name | name ∈ moved ++ rest}, d.Relocated dataDir uuid gone d' ∧
        e.Leaves dataDir gone)
      fun _ d' => d.Relocated dataDir uuid {name | name ∈ moved ++ rest} d' := by
  induction rest generalizing moved d₁ with
  | nil => exact .pure (by simpa using h)
  | cons name rest ih =>
    have hinit : ({name | name ∈ moved} : Set String) ⊆ {other | other ∈ moved ++ name :: rest} :=
      fun other hother => List.mem_append_left _ hother
    have hnew : name ∉ ({name | name ∈ moved} : Set String) := fun hmem =>
      (List.disjoint_of_nodup_append hnodup) hmem List.mem_cons_self
    have hforth := h.forth hnew
    have hinsert : insert name {name | name ∈ moved} =
      ({other | other ∈ moved ++ [name]} : Set _) := by
      ext other
      simp only [Set.mem_insert_iff, Set.mem_ofPred_eq, List.mem_append, List.mem_singleton]
      tauto
    rw [hinsert] at hforth
    have hsplit : moved ++ name :: rest = (moved ++ [name]) ++ rest := by simp
    simp only [List.map_cons, moveFiles, List.getLast?_concat]
    refine (renameFile_acts.imp (fun e d' he => ?_) fun _ _ hr => hr).seq ?_
    · obtain ⟨rfl, rfl | rfl⟩ := he
      · exact ⟨_, hinit, h, .inl rfl⟩
      · refine ⟨_, ?_, hforth, .inl rfl⟩
        rw [hsplit]
        exact fun other hother => List.mem_append_left _ hother
    · rintro r d₂ (⟨rfl, rfl⟩ | ⟨message, rfl, rfl⟩)
      · have hnext := ih (hsplit ▸ hnodup) hforth
        rw [List.map_append] at hnext
        rw [hsplit]
        exact hnext
      · refine (rolledBack_acts hfree hnodup.of_append_left h).imp (fun e d' he => ?_)
          fun _ _ hr => hr.elim
        obtain ⟨gone, hsub, hgone⟩ := he
        exact ⟨gone, hsub.trans hinit, hgone⟩

def Disk.existing (d : Disk V) (dataDir : Path) : Set String :=
  {name | name ∈ walletDatabaseNames ∧ (d.files (cashuWalletDir dataDir ++ [name])).isSome}

def PreserveTells (dataDir : Path) (uuid : String) (before : Disk V) (gone : Set String) :
    EStateM.Result PreserveError (Process Unit (Disk V)) (Option Path) → Prop
  | .ok none _ => before.existing dataDir = ∅
  | .ok (some recoveryDir) _ => recoveryDir = walletRecoveryDir dataDir uuid ∧
      gone = before.existing dataDir ∧ gone.Nonempty
  | .error e _ => e.Leaves dataDir gone

def Disk.Begun (d : Disk V) (dataDir : Path) (base : Disk V) : Prop :=
  base = d ∨ base = d.create (walletLockPath dataDir)

/-- A preservation: each database file is where it was or gone to the recovery directory, nothing
else has changed, and the result tells which files are gone. -/
structure Preserves (dataDir : Path) (uuid : String) (before : Disk V)
    (result : EStateM.Result PreserveError (Process Unit (Disk V)) (Option Path))
    (gone : Set String) : Prop where
  found : gone ⊆ before.existing dataDir
  moved : ∃ base, before.Begun dataDir base ∧ base.Relocated dataDir uuid gone (leaves result)
  tells : PreserveTells dataDir uuid before gone result

theorem Disk.create_of_ne {path path' : Path} (h : path' ≠ path) :
    (d.create path).files path' = d.files path' := by
  unfold Disk.create
  split
  · rfl
  · exact Function.update_of_ne h _ _

theorem existing_create : (d.create (walletLockPath dataDir)).existing dataDir =
    d.existing dataDir := by
  ext name
  refine and_congr_right fun hname => ?_
  have hne : cashuWalletDir dataDir ++ [name] ≠ walletLockPath dataDir := by
    rintro heq
    obtain rfl : name = "wallet.lock" := by simpa [walletLockPath] using heq
    revert hname
    decide
  rw [Disk.create_of_ne hne]

theorem unused_create (h : d.Unused dataDir uuid) :
    (d.create (walletLockPath dataDir)).Unused dataDir uuid := by
  intro name
  rw [Disk.create_of_ne (by simp [walletLockPath, walletRecoveryDir]), h name]

theorem existing_begun {base : Disk V} (h : d.Begun dataDir base) :
    base.existing dataDir = d.existing dataDir := by
  rcases h with rfl | rfl
  · rfl
  · exact existing_create

theorem unused_begun {base : Disk V} (h : d.Begun dataDir base) (hfree : d.Unused dataDir uuid) :
    base.Unused dataDir uuid := by
  rcases h with rfl | rfl
  · exact hfree
  · exact unused_create hfree

theorem existing_eq (d : Disk V) (dataDir : Path) : d.existing dataDir =
    {name | name ∈ walletDatabaseNames.filter fun name =>
      (d.files (cashuWalletDir dataDir ++ [name])).isSome} := by
  ext name
  simp [Disk.existing]

theorem databaseFiles_eq (dataDir : Path) : cashuWalletDatabaseFiles dataDir =
    walletDatabaseNames.map fun name => cashuWalletDir dataDir ++ [name] := rfl

theorem filter_databaseFiles (d : Disk V) (dataDir : Path) :
    ((cashuWalletDatabaseFiles dataDir).filter fun path => (d.files path).isSome) =
      (walletDatabaseNames.filter fun name =>
        (d.files (cashuWalletDir dataDir ++ [name])).isSome).map
          fun name => cashuWalletDir dataDir ++ [name] := by
  rw [databaseFiles_eq, List.filter_map]
  rfl

theorem preserveCashuWalletDatabase_acts (hfree : d.Unused dataDir uuid) :
    Acts (preserveCashuWalletDatabase dataDir uuid) d
      (fun e d' => ∃ gone ⊆ d.existing dataDir, (∃ base, d.Begun dataDir base ∧
        base.Relocated dataDir uuid gone d') ∧ e.Leaves dataDir gone)
      fun r d' => ∃ gone ⊆ d.existing dataDir, (∃ base, d.Begun dataDir base ∧
        base.Relocated dataDir uuid gone d') ∧
        (r = none ∧ d.existing dataDir = ∅ ∨ r = some (walletRecoveryDir dataDir uuid) ∧
          gone = d.existing dataDir ∧ gone.Nonempty) := by
  have hfirst : Acts (onSeed (context "failed to create the Cashu wallet directory" osQuery)) d
      (fun e d' => ∃ cause, e = .seed cause ∧ d.Begun dataDir d') fun _ d' => d' = d :=
    (onSeed_acts (context_acts osQuery_acts)).imp
      (fun e d' ⟨cause, he, _, hd'⟩ => ⟨cause, he, .inl hd'⟩) fun _ _ h => h
  have hlock : Acts (onSeed (acquireWalletWriterLock dataDir)) d
      (fun e d' => ∃ cause, e = .seed cause ∧ d.Begun dataDir d') fun _ => d.Begun dataDir :=
    (onSeed_acts (acquireWalletWriterLock_acts (d.Begun dataDir) (.inl rfl) (.inr rfl))).imp
      (fun e d' ⟨cause, he, _, hd'⟩ => ⟨cause, he, hd'⟩) fun _ _ h => h
  have hearly : ∀ (e : PreserveError) (d' : Disk V),
      (∃ cause, e = .seed cause ∧ d.Begun dataDir d') →
      ∃ gone ⊆ d.existing dataDir, (∃ base, d.Begun dataDir base ∧
        base.Relocated dataDir uuid gone d') ∧ e.Leaves dataDir gone := by
    rintro e d' ⟨cause, rfl, hbegun⟩
    exact ⟨∅, Set.empty_subset _, ⟨d', hbegun, .refl d'⟩, .inr rfl⟩
  refine (hfirst.imp hearly fun _ _ h => h).seq fun _ d₁ hd₁ => ?_
  subst hd₁
  refine (hlock.imp hearly fun _ _ h => h).seq fun _ base hbegun => .peek_bind ?_
  rw [filter_databaseFiles]
  have hexisting := existing_begun hbegun
  rw [existing_eq] at hexisting
  refine .ite (fun hnone => .pure ?_) fun hsome => ?_
  · refine ⟨∅, Set.empty_subset _, ⟨base, hbegun, .refl base⟩, .inl ⟨rfl, ?_⟩⟩
    rw [← hexisting, List.map_eq_nil_iff.mp hnone]
    simp
  · have hquery : Acts (onSeed (context "failed to create Cashu wallet recovery directory" osQuery))
        base (fun e d' => ∃ cause, e = .seed cause ∧ d₁.Begun dataDir d') fun _ d' => d' = base :=
      (onSeed_acts (context_acts osQuery_acts)).imp
        (fun e d' ⟨cause, he, _, hd'⟩ => ⟨cause, he, hd' ▸ hbegun⟩) fun _ _ h => h
    refine (hquery.imp hearly fun _ _ h => h).seq fun _ d₂ hd₂ => ?_
    subst hd₂
    have hnodup : ([] ++ walletDatabaseNames.filter fun name =>
        (d₂.files (cashuWalletDir dataDir ++ [name])).isSome).Nodup :=
      List.Nodup.filter _ (by decide)
    have hmove := moveFiles_acts (unused_begun hbegun hfree) hnodup
      (by simpa using Disk.Relocated.refl d₂)
    simp only [List.nil_append, hexisting] at hmove
    refine (hmove.imp (fun e d' he => ?_) fun _ _ h => h).seq fun _ d' hd' => .pure ?_
    · obtain ⟨gone, hsub, hgone, htells⟩ := he
      exact ⟨gone, hsub, ⟨d₂, hbegun, hgone⟩, htells⟩
    · refine ⟨_, Set.Subset.rfl, ⟨d₂, hbegun, hd'⟩, .inr ⟨rfl, rfl, ?_⟩⟩
      obtain ⟨name, hname⟩ := List.exists_mem_of_ne_nil _ fun hnil =>
        hsome (List.map_eq_nil_iff.mpr hnil)
      exact hexisting ▸ ⟨name, hname⟩

theorem preserve_preserves (hfree : d.Unused dataDir uuid) (replies : List (Reply Unit)) :
    ∃ gone, Preserves dataDir uuid d (preserveCashuWalletDatabase dataDir uuid ⟨d, replies⟩)
      gone := by
  have hacts := preserveCashuWalletDatabase_acts hfree
  cases hrun : preserveCashuWalletDatabase dataDir uuid ⟨d, replies⟩ with
  | ok r p =>
    obtain ⟨gone, hfound, hmoved, ⟨rfl, hnone⟩ | ⟨rfl, hgone⟩⟩ := hacts.of_ok hrun
    · exact ⟨gone, hfound, hmoved, hnone⟩
    · exact ⟨gone, hfound, hmoved, rfl, hgone⟩
  | error e p =>
    obtain ⟨gone, hfound, hmoved, htells⟩ := hacts.of_error hrun
    exact ⟨gone, hfound, hmoved, htells⟩

end CashuService

import CashuService.Client.SpilmanSpecs
set_option autoImplicit false

namespace CashuService

inductive SpilmanClient (F P α : Type) where
  | senderKey
  | session (nonblocking : Bool) (work : FileSpilmanPaymentSigner F P → Bridge F P α)

inductive ClientResult (α : Type) where
  | senderKey (key : CashuSpilmanSenderKeyFile)
  | session (payment : Option α)
  deriving DecidableEq, Repr

section

variable {ι F P α : Type} [DecidableEq ι]

def SpilmanClient.thread (crates : SenderKeyCrates) (codec : StoreFileCodec F P) (dataDir : Path)
    (rounds : Nat) (i : ι) : SpilmanClient F P α → ClientM ι (ClientResult α)
  | .senderKey => do
    let key ← loadOrCreateCashuSpilmanSenderKey crates dataDir rounds
    return .senderKey key
  | .session nonblocking work => do
    let payment ←
      FileSpilmanPaymentSigner.session crates codec i dataDir nonblocking work rounds
    return .session payment

def SpilmanClient.work : SpilmanClient F P α →
    Option (FileSpilmanPaymentSigner F P → Bridge F P α)
  | .senderKey => none
  | .session _ work => some work

/-- The work of those processes that have a session. -/
def clientWorks (clients : ι → Option (SpilmanClient F P α)) (i : ι) :
    Option (FileSpilmanPaymentSigner F P → Bridge F P α) :=
  (clients i).bind SpilmanClient.work

omit [DecidableEq ι] in
theorem clientWorks_eq_some {clients : ι → Option (SpilmanClient F P α)} {i : ι}
    {work : FileSpilmanPaymentSigner F P → Bridge F P α} :
    clientWorks clients i = some work ↔
      ∃ nonblocking, clients i = some (.session nonblocking work) := by
  unfold clientWorks
  cases clients i with
  | none => simp
  | some client => cases client <;> simp [SpilmanClient.work]

abbrev ClientPool (ι α : Type) :=
  Pool ι (Answer SecretBytes) (FileSystem Path String ι) (Except ClientError (ClientResult α))

def clientPool (crates : SenderKeyCrates) (codec : StoreFileCodec F P) (dataDir : Path)
    (rounds : Nat) (clients : ι → Option (SpilmanClient F P α))
    (start : FileSystem Path String ι) : ClientPool ι α :=
  ⟨start, fun i => (clients i).map fun client => client.thread crates codec dataDir rounds i⟩

variable {crates : SenderKeyCrates} {codec : StoreFileCodec F P} {dataDir : Path} {rounds : Nat}
  {clients : ι → Option (SpilmanClient F P α)} {start : FileSystem Path String ι}
  {initial : Option String} {i j : ι}

def ClientEnd (crates : SenderKeyCrates) (codec : StoreFileCodec F P) (dataDir : Path)
    (initial : Option String) (clients : ι → Option (SpilmanClient F P α)) (i : ι) :
    Except ClientError (ClientResult α) → ClientWorld ι F P → Prop
  | .error e, w => e ≠ .unfinished ∧ Unheld i w
  | .ok (.senderKey key), w => Unheld i w ∧ HasKey crates dataDir key w.1
  | .ok (.session r), w => ∃ nonblocking work, clients i = some (.session nonblocking work) ∧
      SessionEnd crates codec dataDir initial i nonblocking work r w

omit [DecidableEq ι] in
theorem ClientEnd.unheld {r : Except ClientError (ClientResult α)} {w : ClientWorld ι F P}
    (h : ClientEnd crates codec dataDir initial clients i r w) : Unheld i w := by
  match r, h with
  | .error _, h => exact h.2
  | .ok (.senderKey _), h => exact h.1
  | .ok (.session _), ⟨_, _, _, h⟩ => exact h.1

theorem history_stable {earlier : List (ClientSession ι F P)}
    {steps : List (StoreChange F P × WriteOutcome)} :
    (clientProtocol crates codec dataDir initial start (clientWorks clients)).Stable i
      fun w => ∃ later, w.2.sessions = earlier ++ ⟨i, steps⟩ :: later := by
  rintro j hj u v _ _ hguar ⟨later, hlater⟩
  rcases hguar.history with hsame | ⟨-, hnew⟩ | ⟨-, before, old, steps', hold, hnew⟩
  · exact ⟨later, hsame.trans hlater⟩
  · exact ⟨later ++ [⟨j, []⟩], by rw [hnew, hlater, List.append_assoc, List.cons_append]⟩
  · rw [hlater] at hold
    rcases List.eq_nil_or_concat later with rfl | ⟨later', last, rfl⟩
    · have hlast := (List.append_inj' hold rfl).2
      simp only [List.cons.injEq, ClientSession.mk.injEq, and_true] at hlast
      exact absurd hlast.1.symm hj
    · rw [List.concat_eq_append, ← List.cons_append, ← List.append_assoc] at hold
      obtain ⟨hbefore, -⟩ := List.append_inj' hold rfl
      exact ⟨later' ++ [⟨j, steps'⟩], by
        rw [hnew, ← hbefore, List.append_assoc, List.cons_append]⟩

theorem clientEnd_stable (r : Except ClientError (ClientResult α)) :
    (clientProtocol crates codec dataDir initial start (clientWorks clients)).Stable i
      (ClientEnd crates codec dataDir initial clients i r) := by
  intro j hj u v hu hv hguar h
  have hunheld : Unheld i u → Unheld i v := unheld_stable j hj u v hu hv hguar
  match r, h with
  | .error _, h => exact ⟨h.1, hunheld h.2⟩
  | .ok (.senderKey _), h => exact ⟨hunheld h.1, ClientGuar.hasKey hguar h.2⟩
  | .ok (.session none), ⟨nonblocking, work, hclient, h⟩ =>
    exact ⟨nonblocking, work, hclient, hunheld h.1, h.2⟩
  | .ok (.session (some payment)), ⟨nonblocking, work, hclient, h, key, earlier, steps, later,
      loaded, session, hkey, hhistory, hsigned⟩ =>
    obtain ⟨later', hhistory'⟩ := history_stable j hj u v hu hv hguar ⟨later, hhistory⟩
    exact ⟨nonblocking, work, hclient, hunheld h, key, earlier, steps, later', loaded, session,
      ClientGuar.hasKey hguar hkey, hhistory', hsigned⟩

theorem client_keeps {client : SpilmanClient F P α} {w : ClientWorld ι F P}
    (hcrates : crates.Faithful) (hclient : clients i = some client)
    (ha : NotYet i w ∧ Unheld i w) :
    (clientProtocol crates codec dataDir initial start (clientWorks clients)).Keeps i
      (ClientEnd crates codec dataDir initial clients i)
      (client.thread crates codec dataDir (rounds + 2) i) w := by
  have hends : (clientProtocol crates codec dataDir initial start (clientWorks clients)).Tries i
      (client.thread crates codec dataDir (rounds + 2) i) w (Fails (Unheld i))
      fun r => ClientEnd crates codec dataDir initial clients i (.ok r) := by
    cases client with
    | senderKey =>
      refine .seq (loadOrCreateKey_tries hcrates unheld_stable unheld_apart ?_ ha.2)
        fun key w₁ h₁ => .pure h₁
      exact fun _ _ _ h => h
    | session nonblocking work =>
      have hwork : clientWorks clients i = some work := by
        simp [clientWorks, hclient, SpilmanClient.work]
      refine .seq (session_tries hcrates hwork ha) fun r w₁ h₁ => .pure ?_
      exact ⟨nonblocking, work, hclient, h₁⟩
  refine Protocol.Keeps.imp hends fun r w h => ?_
  cases r with
  | ok r => exact h
  | error e => exact h

section

variable {moves moves' : List (Move ι (Answer SecretBytes))} {p p' p'' : ClientPool ι α}
  {g : ClientHistory ι F P}

theorem clientPool_obeys (hcrates : crates.Faithful) (hrounds : 2 ≤ rounds)
    (hunlocked : Unlocked start) :
    Pool.Obeys (clientProtocol crates codec dataDir (storeFile dataDir start)
      start (clientWorks clients))
      (ClientEnd crates codec dataDir (storeFile dataDir start) clients)
      (clientPool crates codec dataDir rounds clients start) ⟨[], fun _ => none⟩ where
  inv := by
    refine ⟨rfl, fun inode i hi => ?_, List.nodup_nil, fun earlier session later h => ?_,
      fun _ _ _ h => h, fun _ _ h => by cases h⟩
    · exact absurd hi (by simp [clientPool, hunlocked inode])
    · simp at h
  threads := by
    intro i t ht
    obtain ⟨client, hclient, rfl⟩ := Option.map_eq_some_iff.mp ht
    obtain ⟨n, rfl⟩ := Nat.exists_eq_add_of_le' hrounds
    exact client_keeps hcrates hclient
      ⟨by simp [NotYet], by simp [Unheld, HoldsLock, clientPool, hunlocked _]⟩

/-- A file is locked only by a process that is still at work. -/
def HeldByWorking (p : ClientPool ι α) : Prop :=
  ∀ inode i, p.state.locks inode = some i → ∃ effect next, p.threads i = some (.act effect next)

theorem HeldByWorking.move {m : Move ι (Answer SecretBytes)}
    (hobeys : Pool.Obeys (clientProtocol crates codec dataDir initial start (clientWorks clients))
      (ClientEnd crates codec dataDir initial clients) p g)
    (h : HeldByWorking p) (hmove : p.move FileSystem.release m = some p') :
    HeldByWorking p' := by
  obtain ⟨g', hobeys', hguar⟩ := hobeys.move (fun _ => clientEnd_stable) hmove
  intro inode j hlock
  by_cases hj : j = m.thread
  · cases m with
    | stop i =>
      obtain rfl := Option.some.inj hmove
      obtain rfl : j = i := hj
      by_cases hmine : p.state.locks inode = some j <;> simp [FileSystem.release, hmine] at hlock
    | act i answer =>
      obtain rfl : j = i := hj
      simp only [Pool.move] at hmove
      split at hmove
      · rename_i effect next ht
        obtain ⟨s, -, rfl⟩ := Option.map_eq_some_iff.mp hmove
        cases hnext : next answer p.state with
        | act effect' next' => exact ⟨effect', next', Function.update_self ..⟩
        | done r =>
          rw [hnext] at hobeys'
          have hend := hobeys'.result (Pool.ended_eq_some.mpr (Function.update_self ..))
          exact absurd ⟨inode, hlock⟩ (ClientEnd.unheld hend)
      · cases hmove
  · rw [Pool.move_threads hmove hj]
    exact h inode j ((hguar.locks inode j hj).mp hlock)

theorem clients_run (hcrates : crates.Faithful) (hrounds : 2 ≤ rounds) (hunlocked : Unlocked start)
    (hrun : (clientPool crates codec dataDir rounds clients start).run FileSystem.release moves =
      some p') :
    ∃ g, Pool.Obeys (clientProtocol crates codec dataDir (storeFile dataDir start)
      start (clientWorks clients))
      (ClientEnd crates codec dataDir (storeFile dataDir start) clients) p' g := by
  obtain ⟨g, hobeys, -⟩ :=
    (clientPool_obeys hcrates hrounds hunlocked).run (fun _ => clientEnd_stable) hrun
  exact ⟨g, hobeys⟩

theorem ownFiles_run (hobeys : Pool.Obeys (clientProtocol crates codec dataDir initial start
    (clientWorks clients))
      (ClientEnd crates codec dataDir initial clients) p g)
    (hrun : p.run FileSystem.release moves = some p') :
    OnlyOwnFiles dataDir start p.state p'.state := by
  obtain ⟨g', -, hfiles⟩ := hobeys.run (fun _ => clientEnd_stable) hrun
  exact hfiles (fun u v => OnlyOwnFiles dataDir start u.1 v.1) (fun u => .refl u.1)
    (fun _ _ _ => OnlyOwnFiles.trans) fun _ _ _ _ _ _ hguar => hguar.entries

theorem held_run (hobeys : Pool.Obeys (clientProtocol crates codec dataDir initial start
    (clientWorks clients))
      (ClientEnd crates codec dataDir initial clients) p g) (h : HeldByWorking p)
    (hrun : p.run FileSystem.release moves = some p') : HeldByWorking p' := by
  induction moves generalizing p g with
  | nil =>
    obtain rfl := Option.some.inj hrun
    exact h
  | cons m moves ih =>
    obtain ⟨q, hmove, hrest⟩ := Option.bind_eq_some_iff.mp hrun
    obtain ⟨g', hobeys', -⟩ := hobeys.move (fun _ => clientEnd_stable) hmove
    exact ih hobeys' (h.move hobeys hmove) hrest

def sampleSenderKey : CashuSpilmanSenderKeyFile where
  version := 1
  secretHex := "0101010101010101010101010101010101010101010101010101010101010101"
  publicKeyHex := "031b84c5567b126440995d3ed5aaba0565d71e1834604819ff9c17f5e9d5dd078f"

def sampleSenderKeyContent : String :=
  "\x7b\n  \"version\": 1,\n  \"secret_hex\": \"" ++ sampleSenderKey.secretHex ++
    "\",\n  \"public_key_hex\": \"" ++ sampleSenderKey.publicKeyHex ++ "\"\n\x7d"

def sampleKeyCrates : SenderKeyCrates where
  encode key := if key = sampleSenderKey then .ok sampleSenderKeyContent else .error "not written"
  decode content :=
    if content = sampleSenderKeyContent then .ok sampleSenderKey
    else .error "expected value at line 1 column 1"
  addKeyFromHex secretHex :=
    if secretHex = sampleSenderKey.secretHex then .ok sampleSenderKey.publicKeyHex
    else .error "malformed or out-of-range secret key"

theorem sampleKeyCrates_faithful : sampleKeyCrates.Faithful := by
  intro key content h
  simp only [sampleKeyCrates] at h
  split at h
  · rename_i hkey
    obtain rfl := Except.ok.inj h
    simp [sampleKeyCrates, hkey]
  · cases h

def sampleSpilmanClients : Nat → Option (SpilmanClient String String String)
  | 0 => some (.session false fun signer =>
      .change (.setClosed "channel-1") fun _ => .done (.ok signer.sender.publicKeyHex))
  | 1 => some .senderKey
  | 2 => some .senderKey
  | 3 => some (.session true fun signer =>
      .change (.setClosed "channel-1") fun _ => .done (.ok signer.sender.publicKeyHex))
  | _ => none

def sampleFileSystem : FileSystem Path String Nat := ⟨fun _ => none, 0, fun _ => none⟩

def sampleClientPool : ClientPool Nat String :=
  clientPool sampleKeyCrates sampleStoreCodec ["data"] 2 sampleSpilmanClients sampleFileSystem

def sampleMove (i : Nat) : Move Nat (Answer SecretBytes) :=
  .act i ⟨none, Vector.replicate 32 1, "Zk3b0" ++ toString i⟩

/-- Two processes look for the key at the same time and one creates it. A third one is killed while
it writes the store, and leaves a temporary file. The fourth one pays. -/
def sampleClientMoves : List (Move Nat (Answer SecretBytes)) :=
  ([1] ++ List.replicate 13 2 ++ List.replicate 15 1 ++ List.replicate 28 3).map sampleMove ++
    .stop 3 :: (List.replicate 21 0).map sampleMove

theorem sampleClientPool_ends : ∃ p',
    sampleClientPool.run FileSystem.release sampleClientMoves = some p' ∧
      p'.ended 0 = some (.ok (.session (some sampleSenderKey.publicKeyHex))) ∧
      p'.ended 1 = some (.ok (.senderKey sampleSenderKey)) ∧
      p'.ended 2 = some (.ok (.senderKey sampleSenderKey)) ∧
      (p'.state.entries ["data", ".cashu-private-Zk3b03"]).isSome := by
  have hends : (sampleClientPool.run FileSystem.release sampleClientMoves).any
      (fun p' => p'.ended 0 = some (.ok (.session (some sampleSenderKey.publicKeyHex))) ∧
        p'.ended 1 = some (.ok (.senderKey sampleSenderKey)) ∧
        p'.ended 2 = some (.ok (.senderKey sampleSenderKey)) ∧
        (p'.state.entries ["data", ".cashu-private-Zk3b03"]).isSome) = true := by
    decide +kernel
  obtain ⟨p', hrun, hended⟩ := (Option.any_eq_true ..).mp hends
  exact ⟨p', hrun, of_decide_eq_true hended⟩

theorem key_kept (hobeys : Pool.Obeys
      (clientProtocol crates codec dataDir initial start (clientWorks clients))
      (ClientEnd crates codec dataDir initial clients) p g)
    (hrun : p.run FileSystem.release moves = some p') {inode : Nat} {content : String}
    (hentry : p.state.entries (spilmanSenderKeyPath dataDir) = some (.regular inode content)) :
    p'.state.entries (spilmanSenderKeyPath dataDir) = some (.regular inode content) := by
  have hmine : spilmanSenderKeyPath dataDir ∈ clientFiles dataDir :=
    mem_clientFiles.mpr (.inr (.inr rfl))
  exact (ownFiles_run hobeys hrun).kept keyPath_ne_storePath (clientFile_aside hmine).2 hentry

omit [DecidableEq ι] in
theorem HasKey.unique {key key' : CashuSpilmanSenderKeyFile} {fs : FileSystem Path String ι}
    (h : HasKey crates dataDir key fs) (h' : HasKey crates dataDir key' fs) : key' = key := by
  obtain ⟨inode, content, hentry, hdecode⟩ := h
  obtain ⟨inode', content', hentry', hdecode'⟩ := h'
  rw [hentry, Option.some.injEq, Node.regular.injEq] at hentry'
  obtain ⟨-, rfl⟩ := hentry'
  exact Except.ok.inj (hdecode'.symm.trans hdecode)

/-- All processes that get the key of the sender, for themselves or for the work of a session, get
the same one, that of its file, which is never replaced, and none of them loops. -/
theorem sender_key_agreed (hcrates : crates.Faithful) (hrounds : 2 ≤ rounds)
    (hunlocked : Unlocked start)
    (hrun : (clientPool crates codec dataDir rounds clients start).run FileSystem.release moves =
      some p') :
    (∀ i, p'.ended i ≠ some (.error .unfinished)) ∧
    ∀ i result, p'.ended i = some (.ok result) → result ≠ .session none →
      ∃ key, HasKey crates dataDir key p'.state ∧
        (∀ j key', p'.ended j = some (.ok (.senderKey key')) → key' = key) ∧
        (∀ j payment, p'.ended j = some (.ok (.session (some payment))) →
          ∃ nonblocking work loaded file steps, clients j = some (.session nonblocking work) ∧
            (work ⟨key, loaded⟩).Makes codec ⟨loaded, file⟩ steps (.ok payment)) ∧
        ∀ moves' p'', p'.run FileSystem.release moves' = some p'' →
          p''.state.entries (spilmanSenderKeyPath dataDir) =
            p'.state.entries (spilmanSenderKeyPath dataDir) := by
  obtain ⟨g, hobeys⟩ := clients_run hcrates hrounds hunlocked hrun
  refine ⟨fun i hi => (hobeys.result hi).1 rfl, fun i result hi hresult => ?_⟩
  obtain ⟨key, hkey⟩ : ∃ key, HasKey crates dataDir key p'.state := by
    have hend := hobeys.result hi
    match result, hresult, hend with
    | .senderKey key, _, hend => exact ⟨key, hend.2⟩
    | .session (some payment), _, ⟨_, _, _, _, key, _, _, _, _, _, hkey, _⟩ => exact ⟨key, hkey⟩
    | .session none, hresult, _ => exact absurd rfl hresult
  refine ⟨key, hkey, fun j key' hj => hkey.unique (hobeys.result hj).2, fun j payment hj => ?_,
    fun moves' p'' hrun' => ?_⟩
  · obtain ⟨nonblocking, work, hclient, -, key', earlier, steps, later, loaded, session, hkey', -,
      hsigned⟩ := hobeys.result hj
    obtain rfl := hkey.unique hkey'
    exact ⟨nonblocking, work, loaded, _, steps, hclient, hsigned.makes⟩
  · obtain ⟨inode, content, hentry, -⟩ := hkey
    rw [key_kept hobeys hrun' hentry, hentry]

theorem sender_key_agreed_sample : ∃ p',
    sampleClientPool.run FileSystem.release sampleClientMoves = some p' ∧
      ∃ key, HasKey sampleKeyCrates ["data"] key p'.state ∧ sampleSenderKey = key ∧
        ∃ nonblocking work loaded file steps,
          sampleSpilmanClients 0 = some (.session nonblocking work) ∧
          (work ⟨key, loaded⟩).Makes sampleStoreCodec ⟨loaded, file⟩ steps
            (.ok sampleSenderKey.publicKeyHex) := by
  obtain ⟨p', hrun, hpaid, hfirst, -⟩ := sampleClientPool_ends
  obtain ⟨key, hkey, hkeys, hsessions, -⟩ :=
    (sender_key_agreed sampleKeyCrates_faithful (by decide) (fun _ => rfl) hrun).2 0 _ hpaid
      (by simp)
  exact ⟨p', hrun, key, hkey, hkeys 1 _ hfirst, hsessions 0 _ hpaid⟩

/-- These sessions, one after the other, explain what the processes have done: who has the lock is
the last one, each of them has made the first changes of its own work on what the ones before it had
left, and those that have returned a payment have made all of them. -/
structure Explains (crates : SenderKeyCrates) (codec : StoreFileCodec F P) (dataDir : Path)
    (clients : ι → Option (SpilmanClient F P α)) (start : FileSystem Path String ι)
    (p : ClientPool ι α) (sessions : List (ClientSession ι F P)) : Prop where
  once : (sessions.map ClientSession.thread).Nodup
  locked : ∀ inode i, p.state.locks inode = some i →
    ∃ earlier steps, sessions = earlier ++ [⟨i, steps⟩]
  file : storeFile dataDir p.state = oneByOne codec (storeFile dataDir start) sessions
  begun : AllBegun crates codec dataDir (storeFile dataDir start) (clientWorks clients) p.state
    sessions
  paid : ∀ i payment, p.ended i = some (.ok (.session (some payment))) →
    ∃ nonblocking work key earlier steps later loaded session,
      clients i = some (.session nonblocking work) ∧ HasKey crates dataDir key p.state ∧
      sessions = earlier ++ ⟨i, steps⟩ :: later ∧
      Signed codec (storeFile dataDir start) work key earlier steps payment loaded session

theorem Explains.of_obeys (hobeys : Pool.Obeys
      (clientProtocol crates codec dataDir (storeFile dataDir start) start (clientWorks clients))
      (ClientEnd crates codec dataDir (storeFile dataDir start) clients) p g) :
    Explains crates codec dataDir clients start p g.sessions where
  once := hobeys.inv.once
  locked inode i hi := (hobeys.inv.locked inode i hi).2
  file := hobeys.inv.file
  begun := hobeys.inv.begun
  paid i payment hi := by
    obtain ⟨nonblocking, work, hclient, -, key, earlier, steps, later, loaded, session, hkey,
      hhistory, hsigned⟩ := hobeys.result hi
    exact ⟨nonblocking, work, key, earlier, steps, later, loaded, session, hclient, hkey, hhistory,
      hsigned⟩

theorem order_kept (hobeys : Pool.Obeys
      (clientProtocol crates codec dataDir initial start (clientWorks clients))
      (ClientEnd crates codec dataDir initial clients) p g)
    (hrun : p.run FileSystem.release moves = some p') :
    ∃ g', Pool.Obeys (clientProtocol crates codec dataDir initial start (clientWorks clients))
        (ClientEnd crates codec dataDir initial clients) p' g' ∧
      g.sessions.map ClientSession.thread <+: g'.sessions.map ClientSession.thread := by
  obtain ⟨g', hobeys', hkept⟩ := hobeys.run (fun _ => clientEnd_stable) hrun
  refine ⟨g', hobeys', hkept (fun u v => u.2.sessions.map ClientSession.thread <+:
    v.2.sessions.map ClientSession.thread) (fun _ => List.prefix_refl _)
    (fun _ _ _ => List.IsPrefix.trans) fun m _ u v _ _ hguar => ?_⟩
  rcases hguar.history with hsame | ⟨-, hnew⟩ | ⟨-, earlier, steps, steps', hold, hnew⟩
  · rw [hsame]
  · rw [hnew, List.map_append]
    exact List.prefix_append _ _
  · rw [hold, hnew, List.map_append, List.map_append]
    exact List.prefix_refl _

/-- The sessions are as if one had followed the other: in the order of the lock, each of them
works on the file that the ones before it have left, whatever becomes of its writes. -/
theorem sessions_one_by_one (hcrates : crates.Faithful) (hrounds : 2 ≤ rounds)
    (hunlocked : Unlocked start)
    (hrun : (clientPool crates codec dataDir rounds clients start).run FileSystem.release moves =
      some p') :
    ∃ sessions, Explains crates codec dataDir clients start p' sessions ∧
      ∀ moves' p'', p'.run FileSystem.release moves' = some p'' →
        ∃ sessions', Explains crates codec dataDir clients start p'' sessions' ∧
          sessions.map ClientSession.thread <+: sessions'.map ClientSession.thread := by
  obtain ⟨g, hobeys⟩ := clients_run hcrates hrounds hunlocked hrun
  refine ⟨g.sessions, .of_obeys hobeys, fun moves' p'' hrun' => ?_⟩
  obtain ⟨g', hobeys', horder⟩ := order_kept hobeys hrun'
  exact ⟨g'.sessions, .of_obeys hobeys', horder⟩

theorem sessions_one_by_one_sample : ∃ p',
    sampleClientPool.run FileSystem.release sampleClientMoves = some p' ∧
      ∃ sessions, Explains sampleKeyCrates sampleStoreCodec ["data"] sampleSpilmanClients
          sampleFileSystem p' sessions ∧
        ∃ session ∈ sessions, session.thread = 0 := by
  obtain ⟨p', hrun, hpaid, -⟩ := sampleClientPool_ends
  obtain ⟨sessions, hexplains, -⟩ :=
    sessions_one_by_one sampleKeyCrates_faithful (by decide) (fun _ => rfl) hrun
  obtain ⟨_, _, _, earlier, steps, later, _, _, -, -, hsessions, -⟩ := hexplains.paid 0 _ hpaid
  exact ⟨p', hrun, sessions, hexplains, ⟨0, steps⟩, by simp [hsessions], rfl⟩

omit [DecidableEq ι] in
theorem split_at {order earlier later : List (ι × List (StoreChange F P))} {i : ι}
    {made : List (StoreChange F P)} {sessions : List (ClientSession ι F P)}
    (hthreads : order.map Prod.fst = sessions.map ClientSession.thread)
    (horder : order = earlier ++ (i, made) :: later) :
    ∃ before session after, sessions = before ++ session :: after ∧
      before.length = earlier.length := by
  rw [horder, List.map_append, List.map_cons] at hthreads
  obtain ⟨before, rest, rfl, hbefore, hrest⟩ := List.map_eq_append_iff.mp hthreads.symm
  obtain ⟨session, after, rfl, -, -⟩ := List.map_eq_cons_iff.mp hrest
  exact ⟨before, session, after, rfl, by simpa using congrArg List.length hbefore⟩

/-- No update is lost: the file has the changes of the sessions one after the other, of each the
first ones that its own work makes on what it finds, and of a session that has returned a payment
all of them. -/
theorem no_update_lost (hcrates : crates.Faithful) (hcodec : codec.Faithful)
    (hrounds : 2 ≤ rounds) (hunlocked : Unlocked start) {loaded : FileSpilmanClientStorage F P}
    (hload : loadWithLock codec (.ok (storeFile dataDir start)) = .ok loaded)
    (hrun : (clientPool crates codec dataDir rounds clients start).run FileSystem.release moves =
      some p') :
    ∃ order : List (ι × List (StoreChange F P)), (order.map Prod.fst).Nodup ∧
      loadWithLock codec (.ok (storeFile dataDir p'.state)) =
        .ok ⟨applyAll loaded.state (order.flatMap Prod.snd), none⟩ ∧
      (∀ earlier i made later, order = earlier ++ (i, made) :: later →
        ∃ nonblocking work, clients i = some (.session nonblocking work) ∧
          (made = [] ∨ ∃ key steps file, HasKey crates dataDir key p'.state ∧
            (work ⟨key, ⟨applyAll loaded.state (earlier.flatMap Prod.snd), none⟩⟩).Begins codec
              ⟨⟨applyAll loaded.state (earlier.flatMap Prod.snd), none⟩, file⟩ steps ∧
            made <+: steps.map Prod.fst)) ∧
      ∀ i payment, p'.ended i = some (.ok (.session (some payment))) →
        ∃ nonblocking work key earlier steps later file,
          clients i = some (.session nonblocking work) ∧ HasKey crates dataDir key p'.state ∧
          order = earlier ++ (i, steps.map Prod.fst) :: later ∧
          (work ⟨key, ⟨applyAll loaded.state (earlier.flatMap Prod.snd), none⟩⟩).Makes codec
            ⟨⟨applyAll loaded.state (earlier.flatMap Prod.snd), none⟩, file⟩ steps
            (.ok payment) := by
  obtain ⟨g, hobeys⟩ := clients_run hcrates hrounds hunlocked hrun
  have hexplains := Explains.of_obeys hobeys
  obtain ⟨order, hthreads, hfinal, hsplit⟩ := oneByOne_effect hcodec hload g.sessions
  refine ⟨order, hthreads ▸ hexplains.once, ?_, fun earlier i made later horder => ?_,
    fun i payment hi => ?_⟩
  · rw [hexplains.file, hfinal]
  · obtain ⟨before, session, after, hsessions, hlength⟩ := split_at hthreads horder
    obtain ⟨earlier', made', later', horder', hlength', hmade, hload', -⟩ :=
      hsplit before session after hsessions
    obtain ⟨rfl, hlast⟩ := List.append_inj (horder.symm.trans horder') (hlength ▸ hlength'.symm)
    obtain ⟨⟨rfl, rfl⟩, -⟩ := by simpa using hlast
    obtain ⟨work, hwork, hsteps⟩ := hexplains.begun before session after hsessions
    obtain ⟨nonblocking, hclient⟩ := clientWorks_eq_some.mp hwork
    refine ⟨nonblocking, work, hclient, ?_⟩
    rcases hsteps with hnone | ⟨key, found, hkey, hfound, hbegins⟩
    · rw [hnone] at hmade
      exact .inl (List.prefix_nil.mp hmade)
    · obtain rfl := Except.ok.inj (hfound.symm.trans hload')
      exact .inr ⟨key, session.steps, _, hkey, hbegins, hmade⟩
  · obtain ⟨nonblocking, work, key, earlier, steps, later, found, session, hclient, hkey, hhistory,
      hsigned⟩ := hexplains.paid i payment hi
    obtain ⟨before, made, after, horder, -, -, hbefore, hmade⟩ := hsplit earlier _ later hhistory
    have hfound := hsigned.reached.start
    obtain rfl := Except.ok.inj (hfound.symm.trans hbefore)
    have hall := hmade _ hbefore (by rw [hsigned.reached.run]; exact hsigned.clean)
    subst hall
    exact ⟨nonblocking, work, key, before, steps, after, _, hclient, hkey, horder, hsigned.makes⟩

theorem no_update_lost_sample : ∃ p',
    sampleClientPool.run FileSystem.release sampleClientMoves = some p' ∧
      ∃ order : List (Nat × List (StoreChange String String)),
        loadWithLock sampleStoreCodec (.ok (storeFile ["data"] p'.state)) =
          .ok ⟨applyAll .new (order.flatMap Prod.snd), none⟩ ∧
        ∃ changes, (0, changes) ∈ order := by
  obtain ⟨p', hrun, hpaid, -⟩ := sampleClientPool_ends
  obtain ⟨order, -, hload, -, hpayments⟩ := no_update_lost sampleKeyCrates_faithful
    sampleStoreCodec_faithful (by decide) (fun _ => rfl) rfl hrun
  obtain ⟨_, _, _, earlier, steps, later, _, -, -, horder, -⟩ := hpayments 0 _ hpaid
  exact ⟨p', hrun, order, hload, steps.map Prod.fst, by simp [horder]⟩

/-- Whatever is in the place of a file and is no regular file stays, as all other files do, and a
lock does not outlive the work of its process. -/
theorem foreign_files_kept (hcrates : crates.Faithful) (hrounds : 2 ≤ rounds)
    (hunlocked : Unlocked start)
    (hrun : (clientPool crates codec dataDir rounds clients start).run FileSystem.release moves =
      some p') :
    OnlyOwnFiles dataDir start start p'.state ∧ HeldByWorking p' := by
  have hobeys : Pool.Obeys
      (clientProtocol crates codec dataDir (storeFile dataDir start) start (clientWorks clients))
      (ClientEnd crates codec dataDir (storeFile dataDir start) clients)
      (clientPool crates codec dataDir rounds clients start) ⟨[], fun _ => none⟩ :=
    clientPool_obeys hcrates hrounds hunlocked
  refine ⟨ownFiles_run hobeys hrun, held_run hobeys (fun inode i hlock => ?_) hrun⟩
  exact absurd hlock (by simp [clientPool, hunlocked inode])

theorem foreign_files_kept_sample : ∃ p',
    sampleClientPool.run FileSystem.release sampleClientMoves = some p' ∧
      (p'.state.entries ["data", ".cashu-private-Zk3b03"]).isSome ∧
      OnlyOwnFiles ["data"] sampleFileSystem sampleFileSystem p'.state ∧ HeldByWorking p' := by
  obtain ⟨p', hrun, -, -, -, hleft⟩ := sampleClientPool_ends
  exact ⟨p', hrun, hleft,
    foreign_files_kept sampleKeyCrates_faithful (by decide) (fun _ => rfl) hrun⟩

end

end
end CashuService

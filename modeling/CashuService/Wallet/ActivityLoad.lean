import CashuService.Wallet.Activity
set_option autoImplicit false

namespace CashuService

/-! `wallet.rs`: showing the activity brings the status of its entries up to date, and stores it. -/

/-- What the code reads of a mint quote of `cdk`. -/
structure TopupMintQuote where
  id : String
  state : MintQuoteState
  expiry : UInt64
  deriving DecidableEq, Repr

/-- What the code asks a wallet of the repository for: its quotes, and whether it has a saga. -/
structure ActivityWallet where
  mintUrl : String
  getMintQuotes : Except String (List TopupMintQuote)
  getSaga : String → Except String Bool

/-- What one call finds. A text that is a UUID stands for its value. -/
structure ActivityWorld where
  wallets : List ActivityWallet
  nowUnix : UInt64
  parseUuid : String → Option String

/-- The quotes by their id, and the wallets by their mint. -/
structure ActivityMaps where
  quotes : BTreeMap String TopupMintQuote
  wallets : BTreeMap String ActivityWallet

def ActivityMaps.addWallet (self : ActivityMaps) (wallet : ActivityWallet) :
    Except WalletError ActivityMaps := do
  let quotes ← wallet.getMintQuotes.mapError fun message =>
    ⟨["Failed to load Cashu mint quotes for activity"], .other message⟩
  return {
    quotes := quotes.foldl (fun map quote => map.insert quote.id quote) self.quotes
    wallets := self.wallets.insert wallet.mintUrl wallet }

def ActivityWorld.maps (self : ActivityWorld) : Except WalletError ActivityMaps :=
  self.wallets.foldlM ActivityMaps.addWallet ⟨∅, ∅⟩

def topUpStatus (maps : ActivityMaps) (nowUnix : UInt64) (entry : CashuWalletActivityEntry) :
    CashuWalletActivityStatus :=
  match entry.quoteId with
  | some quoteId =>
    match maps.quotes[quoteId]? with
    | some quote =>
      if quote.state = .issued ∨ quote.state = .paid then .complete
      else if quote.state = .unpaid ∧ quote.expiry ≠ 0 ∧ quote.expiry < nowUnix then .expired
      else .pending
    | none =>
      if entry.expiresAtUnix.any (fun expiry => expiry ≠ 0 ∧ expiry < nowUnix) then .expired
      else entry.status
  | none => entry.status

def tokenSendStatus (maps : ActivityMaps) (parseUuid : String → Option String)
    (entry : CashuWalletActivityEntry) : Except WalletError CashuWalletActivityStatus :=
  match entry.operationId with
  | none => .ok entry.status
  | some operationId =>
    match maps.wallets[entry.mintUrl]? with
    | none => .ok entry.status
    | some wallet =>
      match parseUuid operationId with
      | none => .ok entry.status
      | some operationUuid => do
        let saga ← (wallet.getSaga operationUuid).mapError fun message =>
          ⟨["Failed to load Cashu send saga for activity"], .other message⟩
        return if saga then entry.status else .complete

def nextStatus (world : ActivityWorld) (maps : ActivityMaps) (entry : CashuWalletActivityEntry) :
    Except WalletError CashuWalletActivityStatus :=
  match entry.kind with
  | .topUp => .ok (topUpStatus maps world.nowUnix entry)
  | .tokenSend =>
    if entry.status = .pending then tokenSendStatus maps world.parseUuid entry
    else .ok entry.status
  | _ => .ok entry.status

def refreshEntry (world : ActivityWorld) (maps : ActivityMaps)
    (entry : CashuWalletActivityEntry) : Except WalletError CashuWalletActivityEntry := do
  let status ← nextStatus world maps entry
  return { entry with status }

def keepRefreshed (entries refreshed : List CashuWalletActivityEntry) :
    WalletM (List CashuWalletActivityEntry) :=
  if refreshed ≠ entries then saveWalletActivityEntriesToStore refreshed else return refreshed

def loadWalletActivity (world : ActivityWorld) : WalletM (List CashuWalletActivityEntry) := do
  let entries ← loadWalletActivityEntriesFromStore
  if entries = [] then return entries
  else
    let maps ← attempt world.maps
    let refreshed ← attempt (entries.mapM (refreshEntry world maps))
    keepRefreshed entries refreshed

def WalletDatabase.shown (self : WalletDatabase) :
    Except DecodeError (List CashuWalletActivityEntry) :=
  self.storedEntries.map sortWalletActivityEntries

variable {world : ActivityWorld} {maps : ActivityMaps} {c : Connection String WalletDatabase}
  {entries refreshed : List CashuWalletActivityEntry} {entry entry' : CashuWalletActivityEntry}

theorem refreshEntry_eq_ok (h : refreshEntry world maps entry = .ok entry') :
    entry' = { entry with status := entry'.status } ∧
      nextStatus world maps entry = .ok entry'.status := by
  simp only [refreshEntry, Except.bind_eq_ok, Except.pure_eq_ok] at h
  obtain ⟨status, hstatus, rfl⟩ := h
  exact ⟨rfl, hstatus⟩

theorem refreshEntry_key (h : refreshEntry world maps entry = .ok entry') :
    entry'.key = entry.key := by
  rw [(refreshEntry_eq_ok h).1]
  rfl

theorem WalletDatabase.shown_eq_ok {database : WalletDatabase} :
    database.shown = .ok entries ↔
      ∃ stored, database.storedEntries = .ok stored ∧
        entries = sortWalletActivityEntries stored := by
  unfold WalletDatabase.shown
  cases database.storedEntries with
  | ok stored => simp [Except.map, eq_comm]
  | error e => simp [Except.map]

theorem sort_shown {database : WalletDatabase} (h : database.shown = .ok entries) :
    sortWalletActivityEntries entries = entries := by
  obtain ⟨stored, -, rfl⟩ := WalletDatabase.shown_eq_ok.mp h
  rw [sortWalletActivityEntries_eq_newest, sortWalletActivityEntries_eq_newest, newest_newest]

theorem sort_refreshed (hsorted : sortWalletActivityEntries entries = entries)
    (h : List.Forall₂ (fun entry entry' => refreshEntry world maps entry = .ok entry') entries
      refreshed) : sortWalletActivityEntries refreshed = refreshed := by
  have hkeys : refreshed.map CashuWalletActivityEntry.key =
      entries.map CashuWalletActivityEntry.key := by
    clear hsorted
    induction h with
    | nil => rfl
    | cons hentry _ ih => rw [List.map_cons, List.map_cons, ih, refreshEntry_key hentry]
  rw [sortWalletActivityEntries_eq_newest] at hsorted ⊢
  exact newest_eq_self_of_keys hsorted hkeys

/-- What a load shows comes from what is stored, and is what the next one starts from. -/
theorem loadWalletActivity_ends :
    Ends (loadWalletActivity world) c (fun _ c' => c'.tables.shown = c.tables.shown)
      fun refreshed c' => ∃ entries, c.tables.shown = .ok entries ∧
        c'.tables.shown = .ok refreshed ∧
        ((entries = [] ∧ refreshed = []) ∨ ∃ maps, world.maps = .ok maps ∧
          List.Forall₂ (fun entry entry' => refreshEntry world maps entry = .ok entry') entries
            refreshed) := by
  refine .seq (load_ends.imp (fun _ _ h => congrArg _ h) fun _ _ h => h) fun entries c₁ hload => ?_
  obtain ⟨hsame, stored, hstored, hentries⟩ := hload
  have hshown : c.tables.shown = .ok entries :=
    WalletDatabase.shown_eq_ok.mpr ⟨stored, hstored, hentries⟩
  refine .ite (fun hempty => .pure ⟨entries, hshown, hsame ▸ hshown, .inl ⟨hempty, hempty⟩⟩)
    fun _ => ?_
  refine .attempt_bind (fun _ _ => congrArg _ hsame) fun maps hmaps => ?_
  refine .attempt_bind (fun _ _ => congrArg _ hsame) fun refreshed hrefreshed => ?_
  have hforall := mapM_eq_ok_forall₂ hrefreshed
  have hsorted := sort_refreshed (sort_shown hshown) hforall
  unfold keepRefreshed
  refine .ite (fun _ => ?_) fun hequal => ?_
  · refine (save_ends.imp (fun _ _ h => congrArg _ (h.trans hsame)) fun saved c₂ hsave => ?_)
    obtain ⟨rfl, htables⟩ := hsave
    rw [hsorted] at htables ⊢
    have hnext : c₂.tables.shown = .ok refreshed := by
      rw [WalletDatabase.shown_eq_ok, htables]
      exact ⟨refreshed, entriesFromJson_toJson refreshed, hsorted.symm⟩
    exact ⟨entries, hshown, hnext, .inr ⟨maps, hmaps, hforall⟩⟩
  · rw [not_not] at hequal
    subst hequal
    exact .pure ⟨refreshed, hshown, hsame ▸ hshown, .inr ⟨maps, hmaps, hforall⟩⟩

/-- What the surroundings answer in a load that finds entries and stores them again: the statements
are not refused, and the quotes and the sagas can be loaded. -/
structure LoadAnswered (world : ActivityWorld) (c : Connection String WalletDatabase)
    (maps : ActivityMaps) (entries : List CashuWalletActivityEntry) : Prop where
  read : ¬c.Refuses 0
  quotes : world.maps = .ok maps
  sagas : ∃ refreshed, entries.mapM (refreshEntry world maps) = .ok refreshed
  written : ¬c.Refuses 1

theorem loadWalletActivity_answered :
    Ends (loadWalletActivity world) c (fun _ _ => True) fun refreshed _ =>
      ∀ entries, c.tables.shown = .ok entries → refreshed ≠ entries →
        ∃ maps, LoadAnswered world c maps entries := by
  refine .seq (load_answers.imp (fun _ _ _ => trivial) fun _ _ h => h) fun entries c₁ hload => ?_
  obtain ⟨hread, -, hanswers, stored, hstored, hentries⟩ := hload
  have hshown : ∀ {other}, c.tables.shown = .ok other → other = entries := fun hother =>
    Except.ok.inj (hother.symm.trans (WalletDatabase.shown_eq_ok.mpr ⟨stored, hstored, hentries⟩))
  refine .ite (fun _ => .pure fun other hother hne => absurd (hshown hother).symm hne) fun _ => ?_
  refine .attempt_bind (fun _ _ => trivial) fun maps hmaps => ?_
  refine .attempt_bind (fun _ _ => trivial) fun refreshed hrefreshed => ?_
  unfold keepRefreshed
  refine .ite (fun _ => ?_) fun hequal => .pure fun other hother hne => ?_
  · refine save_answers.imp (fun _ _ _ => trivial) fun saved c₂ hsave other hother _ => ?_
    obtain rfl := hshown hother
    exact ⟨maps, hread, hmaps, ⟨refreshed, hrefreshed⟩,
      (refuses_of_tail hanswers 0).not.mp hsave.1⟩
  · exact absurd ((not_not.mp hequal).trans (hshown hother).symm) hne

def CashuWalletActivityEntry.Completed (self : CashuWalletActivityEntry) : Prop :=
  self.kind = .topUp ∧ self.status = .complete

/-- A load that can load the quotes finds this one. -/
def ActivityWorld.Finds (self : ActivityWorld) (quoteId : String) (quote : TopupMintQuote) : Prop :=
  ∃ maps, self.maps = .ok maps ∧ maps.quotes[quoteId]? = some quote

def QuotesSettle (worlds : List ActivityWorld) : Prop :=
  worlds.Pairwise fun earlier later => ∀ quoteId quote quote',
    earlier.Finds quoteId quote → quote.state = .paid ∨ quote.state = .issued →
    later.Finds quoteId quote' → quote'.state ≠ .unpaid

def NeverUnpaid (worlds : List ActivityWorld) (quoteId : String) : Prop :=
  ∀ world ∈ worlds, ∀ quote, world.Finds quoteId quote → quote.state ≠ .unpaid

/-- A completed top-up whose quote is gone and whose own time is over. -/
def Lapses (world : ActivityWorld) (maps : ActivityMaps) (entry : CashuWalletActivityEntry) :
    Prop :=
  entry.Completed ∧ ∃ quoteId expiry, entry.quoteId = some quoteId ∧
    maps.quotes[quoteId]? = none ∧ entry.expiresAtUnix = some expiry ∧ expiry ≠ 0 ∧
    expiry < world.nowUnix

/-- Every completed top-up of a list has a quote that will not be unpaid, if it has one. -/
def Settled (worlds : List ActivityWorld) (entries : List CashuWalletActivityEntry) : Prop :=
  ∀ entry ∈ entries, entry.Completed → ∀ quoteId, entry.quoteId = some quoteId →
    NeverUnpaid worlds quoteId

theorem topUpStatus_of_settled {quote : TopupMintQuote} {quoteId : String} {nowUnix : UInt64}
    (hquote : entry.quoteId = some quoteId) (hfound : maps.quotes[quoteId]? = some quote)
    (hstate : quote.state ≠ .unpaid) : topUpStatus maps nowUnix entry = .complete := by
  have hpaid : quote.state = .issued ∨ quote.state = .paid := by
    cases h : quote.state <;> simp_all
  simp only [topUpStatus, hquote, hfound, if_pos hpaid]

theorem refreshEntry_completed (hmaps : world.maps = .ok maps) (hcompleted : entry.Completed)
    (hsettled : ∀ quoteId, entry.quoteId = some quoteId → NeverUnpaid [world] quoteId)
    (hlapse : ¬Lapses world maps entry) (h : refreshEntry world maps entry = .ok entry') :
    entry' = entry := by
  obtain ⟨hentry, hstatus⟩ := refreshEntry_eq_ok h
  obtain ⟨hkind, hcomplete⟩ := hcompleted
  have hkeeps : topUpStatus maps world.nowUnix entry = .complete := by
    cases hquote : entry.quoteId with
    | none => simp only [topUpStatus, hquote, hcomplete]
    | some quoteId =>
      cases hfound : maps.quotes[quoteId]? with
      | some quote =>
        have hstate := hsettled quoteId hquote world List.mem_cons_self quote ⟨maps, hmaps, hfound⟩
        exact topUpStatus_of_settled hquote hfound hstate
      | none =>
        have hexpired : ¬entry.expiresAtUnix.any
            (fun expiry => expiry ≠ 0 ∧ expiry < world.nowUnix) = true := by
          intro hany
          obtain ⟨expiry, hexpiry, hpast⟩ := (Option.any_eq_true _ _).mp hany
          obtain ⟨hne, hlt⟩ := of_decide_eq_true hpast
          exact hlapse ⟨⟨hkind, hcomplete⟩, quoteId, expiry, hquote, hfound, hexpiry, hne, hlt⟩
        simp only [topUpStatus, hquote, hfound, if_neg hexpired, hcomplete]
  simp only [nextStatus, hkind, Except.ok.injEq] at hstatus
  rw [hentry, ← hstatus, hkeeps, ← hcomplete]

theorem Lapses.changes (hlapse : Lapses world maps entry)
    (h : refreshEntry world maps entry = .ok entry') : entry' ≠ entry := by
  obtain ⟨⟨hkind, hcomplete⟩, quoteId, expiry, hquote, hgone, hexpiry, hne, hlt⟩ := hlapse
  obtain ⟨-, hstatus⟩ := refreshEntry_eq_ok h
  have hexpired : topUpStatus maps world.nowUnix entry = .expired := by
    simp [topUpStatus, hquote, hgone, hexpiry, hne, hlt]
  simp only [nextStatus, hkind, Except.ok.injEq, hexpired] at hstatus
  rintro rfl
  rw [hcomplete] at hstatus
  contradiction

theorem completed_of_refreshEntry (hcompleted : entry'.Completed)
    (h : refreshEntry world maps entry = .ok entry') :
    entry.quoteId = entry'.quoteId ∧ (entry.Completed ∨ ∃ quoteId quote,
      entry'.quoteId = some quoteId ∧ maps.quotes[quoteId]? = some quote ∧
      (quote.state = .paid ∨ quote.state = .issued)) := by
  obtain ⟨hentry, hstatus⟩ := refreshEntry_eq_ok h
  obtain ⟨hkind', hcomplete⟩ := hcompleted
  have hkind : entry.kind = .topUp := by
    rw [hentry] at hkind'
    exact hkind'
  have hsame : entry.quoteId = entry'.quoteId := by
    rw [hentry]
  simp only [nextStatus, hkind, Except.ok.injEq, hcomplete, topUpStatus] at hstatus
  refine ⟨hsame, ?_⟩
  cases hquote : entry.quoteId with
  | none =>
    rw [hquote] at hstatus
    exact .inl ⟨hkind, hstatus⟩
  | some quoteId =>
    simp only [hquote] at hstatus
    cases hfound : maps.quotes[quoteId]? with
    | some quote =>
      simp only [hfound] at hstatus
      split at hstatus
      · rename_i hstate
        exact .inr ⟨quoteId, quote, hsame ▸ hquote, hfound, hstate.symm⟩
      · split at hstatus <;> contradiction
    | none =>
      simp only [hfound] at hstatus
      split at hstatus
      · contradiction
      · exact .inl ⟨hkind, hstatus⟩

variable {worlds : List ActivityWorld}

theorem Settled.tail (h : Settled (world :: worlds) entries) : Settled worlds entries :=
  fun entry hmem hcompleted quoteId hquote later hlater =>
    h entry hmem hcompleted quoteId hquote later (List.mem_cons_of_mem world hlater)

theorem Settled.next (h : Settled (world :: worlds) entries)
    (hsettle : QuotesSettle (world :: worlds)) (hmaps : world.maps = .ok maps)
    (hforall : List.Forall₂ (fun entry entry' => refreshEntry world maps entry = .ok entry') entries
      refreshed) : Settled worlds refreshed := by
  intro entry' hmem' hcompleted quoteId hquote later hlater
  obtain ⟨k, hk, rfl⟩ := List.getElem_of_mem hmem'
  have hk' : k < entries.length := hforall.length_eq ▸ hk
  have hentry : refreshEntry world maps entries[k] = .ok refreshed[k] := hforall.get hk' hk
  obtain ⟨hsame, hbefore | ⟨quoteId', quote, hquote', hfound, hstate⟩⟩ :=
    completed_of_refreshEntry hcompleted hentry
  · exact h.tail _ (List.getElem_mem hk') hbefore quoteId (hsame.trans hquote) later hlater
  · obtain rfl := Option.some.inj (hquote'.symm.trans hquote)
    intro quote' hlaterQuote
    exact (List.pairwise_cons.mp hsettle).1 later hlater quoteId' quote quote'
      ⟨maps, hmaps, hfound⟩ hstate hlaterQuote

def ShowsCompleted (entries shown : List CashuWalletActivityEntry) : Prop :=
  ∀ (k : Nat) (entry : CashuWalletActivityEntry), entries[k]? = some entry → entry.Completed →
    shown[k]? = some entry

theorem Settled.shows (h : Settled (world :: worlds) entries) (hmaps : world.maps = .ok maps)
    (hlapse : ∀ entry ∈ entries, ¬Lapses world maps entry)
    (hforall : List.Forall₂ (fun entry entry' => refreshEntry world maps entry = .ok entry') entries
      refreshed) : ShowsCompleted entries refreshed := by
  intro k entry hentry hcompleted
  obtain ⟨hk, rfl⟩ := List.getElem?_eq_some_iff.mp hentry
  have hk' : k < refreshed.length := hforall.length_eq ▸ hk
  have hmem := List.getElem_mem hk
  have hrefresh : refreshEntry world maps entries[k] = .ok refreshed[k] := hforall.get hk hk'
  have hsettled : ∀ quoteId, entries[k].quoteId = some quoteId → NeverUnpaid [world] quoteId := by
    intro quoteId hquote w hw
    rw [List.mem_singleton] at hw
    exact h _ hmem hcompleted quoteId hquote w (hw ▸ List.mem_cons_self)
  rw [List.getElem?_eq_getElem hk',
    refreshEntry_completed hmaps hcompleted hsettled (hlapse _ hmem) hrefresh]

def loadAll (worlds : List ActivityWorld) (c : Connection String WalletDatabase) :
    List (Option (List CashuWalletActivityEntry)) :=
  match worlds with
  | [] => []
  | world :: worlds =>
    match loadWalletActivity world c with
    | .ok shown c' => some shown :: loadAll worlds c'
    | .error _ c' => none :: loadAll worlds c'

/-- No load of a sequence that is answered finds a completed top-up that lapses. -/
def NeverLapses (worlds : List ActivityWorld) (c : Connection String WalletDatabase) : Prop :=
  match worlds with
  | [] => True
  | world :: worlds =>
    (∀ entries maps, c.tables.shown = .ok entries → LoadAnswered world c maps entries →
      ∀ entry ∈ entries, ¬Lapses world maps entry) ∧
    match loadWalletActivity world c with
    | .ok _ c' => NeverLapses worlds c'
    | .error _ c' => NeverLapses worlds c'

def StaysCompleted (report later : Option (List CashuWalletActivityEntry)) : Prop :=
  ∀ shown shown', report = some shown → later = some shown' → ShowsCompleted shown shown'

theorem ShowsCompleted.refl (entries : List CashuWalletActivityEntry) :
    ShowsCompleted entries entries := fun _ _ h _ => h

theorem ShowsCompleted.trans {shown later : List CashuWalletActivityEntry}
    (h : ShowsCompleted entries shown) (h' : ShowsCompleted shown later) :
    ShowsCompleted entries later :=
  fun k entry hentry hcompleted => h' k entry (h k entry hentry hcompleted) hcompleted

theorem loadWalletActivity_shows (hshown : c.tables.shown = .ok entries)
    (hsettle : QuotesSettle (world :: worlds)) (hsettled : Settled (world :: worlds) entries)
    (hlapse : ∀ maps, LoadAnswered world c maps entries → ∀ entry ∈ entries,
      ¬Lapses world maps entry) :
    Ends (loadWalletActivity world) c (fun _ c' => c'.tables.shown = .ok entries)
      fun shown c' => c'.tables.shown = .ok shown ∧ ShowsCompleted entries shown ∧
        Settled worlds shown := by
  refine .intro (fun e c' hload => ?_) fun shown c' hload => ?_
  · exact (loadWalletActivity_ends.of_error hload).trans hshown
  obtain ⟨entries', hshown', hnext, hrest⟩ := loadWalletActivity_ends.of_ok hload
  obtain rfl := Except.ok.inj (hshown'.symm.trans hshown)
  rcases hrest with ⟨rfl, rfl⟩ | ⟨maps, hmaps, hforall⟩
  · exact ⟨hnext, .refl _, hsettled.tail⟩
  have hnever : ∀ entry ∈ entries', ¬Lapses world maps entry := by
    intro entry hmem hlapses
    obtain ⟨k, hk, rfl⟩ := List.getElem_of_mem hmem
    have hk' : k < shown.length := hforall.length_eq ▸ hk
    have hchanged : shown ≠ entries' := by
      rintro rfl
      exact hlapses.changes (hforall.get hk hk') rfl
    obtain ⟨maps', hanswered⟩ := loadWalletActivity_answered.of_ok hload _ hshown hchanged
    obtain rfl := Except.ok.inj (hmaps.symm.trans hanswered.quotes)
    exact hlapse maps hanswered _ hmem hlapses
  exact ⟨hnext, hsettled.shows hmaps hnever hforall, hsettled.next hsettle hmaps hforall⟩

theorem loadAll_shows (hshown : c.tables.shown = .ok entries) (hsettle : QuotesSettle worlds)
    (hsettled : Settled worlds entries) (hlapse : NeverLapses worlds c) :
    ∀ shown, some shown ∈ loadAll worlds c → ShowsCompleted entries shown := by
  induction worlds generalizing c entries with
  | nil => simp [loadAll]
  | cons world worlds ih =>
    intro shown hmem
    obtain ⟨hnow, hlater⟩ := hlapse
    have hstep := loadWalletActivity_shows hshown hsettle hsettled fun maps => hnow _ maps hshown
    unfold loadAll at hmem
    cases hload : loadWalletActivity world c with
    | ok shown₁ c' =>
      rw [hload] at hmem hlater
      obtain ⟨hnext, hshows, hrest⟩ := hstep.of_ok hload
      cases hmem with
      | head => exact hshows
      | tail _ hmem => exact hshows.trans (ih hnext hsettle.of_cons hrest hlater shown hmem)
    | error _ c' =>
      rw [hload] at hmem hlater
      cases hmem with
      | tail _ hmem =>
        exact ih (hstep.of_error hload) hsettle.of_cons hsettled.tail hlater shown hmem

theorem loadWalletActivity_unrefused {database : WalletDatabase}
    (hshown : database.shown = .ok entries)
    (hmaps : world.maps = .ok maps) (hrefreshed : entries.mapM (refreshEntry world maps)
      = .ok refreshed) :
    ∃ database', loadWalletActivity world ⟨database, []⟩ = .ok refreshed ⟨database', []⟩ ∧
      database'.shown = .ok refreshed := by
  obtain ⟨stored, hstored, hentries⟩ := WalletDatabase.shown_eq_ok.mp hshown
  have hends : Ends (loadWalletActivity world) ⟨database, []⟩ (fun _ _ => False)
      fun shown c' => shown = refreshed ∧ c'.answers = [] := by
    refine .seq (load_unrefused hstored) fun _ _ hload => ?_
    obtain ⟨rfl, rfl⟩ := hload
    rw [← hentries]
    refine .ite (fun hempty => ?_) fun _ => ?_
    · subst hempty
      exact .pure ⟨Except.pure_eq_ok.mp hrefreshed, rfl⟩
    · refine .attempt_bind (by simp [hmaps]) fun m hm => ?_
      obtain rfl : maps = m := by simpa [hmaps] using hm
      refine .attempt_bind (by simp [hrefreshed]) fun l hl => ?_
      obtain rfl : refreshed = l := by simpa [hrefreshed] using hl
      have hsorted := sort_refreshed (sort_shown hshown) (mapM_eq_ok_forall₂ hrefreshed)
      unfold keepRefreshed
      refine .ite (fun _ => ?_) fun _ => .pure ⟨rfl, rfl⟩
      refine save_unrefused.imp (fun _ _ h => h) fun saved c' hsave => ?_
      exact ⟨hsave.1.trans hsorted, congrArg Connection.answers hsave.2⟩
  obtain ⟨_, ⟨database', _⟩, hload, rfl, rfl⟩ := hends.exists_ok
  obtain ⟨_, _, hnext, -⟩ := loadWalletActivity_ends.of_ok hload
  exact ⟨database', hload, hnext⟩

theorem completed_stays_completed (worlds : List ActivityWorld)
    (c : Connection String WalletDatabase) (hsettle : QuotesSettle worlds)
    (hsettled : ∀ entries, c.tables.shown = .ok entries → Settled worlds entries)
    (hlapse : NeverLapses worlds c) : (loadAll worlds c).Pairwise StaysCompleted := by
  induction worlds generalizing c with
  | nil => exact .nil
  | cons world worlds ih =>
    obtain ⟨hnow, hlater⟩ := hlapse
    have hshown : ∀ e c', loadWalletActivity world c = .error e c' →
        c'.tables.shown = c.tables.shown :=
      fun _ _ hload => loadWalletActivity_ends.of_error hload
    unfold loadAll
    cases hload : loadWalletActivity world c with
    | ok shown c' =>
      rw [hload] at hlater
      obtain ⟨entries, hentries, -⟩ := loadWalletActivity_ends.of_ok hload
      have hstep := loadWalletActivity_shows hentries hsettle (hsettled entries hentries)
        fun maps => hnow _ maps hentries
      obtain ⟨hnext, -, hrest⟩ := hstep.of_ok hload
      have hsettled' : ∀ entries, c'.tables.shown = .ok entries → Settled worlds entries := by
        intro entries' hentries'
        obtain rfl := Except.ok.inj (hnext.symm.trans hentries')
        exact hrest
      refine .cons ?_ (ih c' hsettle.of_cons hsettled' hlater)
      intro report hreport shown₁ shown₂ hfirst hsecond
      obtain rfl := Option.some.inj hfirst
      subst hsecond
      exact loadAll_shows hnext hsettle.of_cons hrest hlater shown₂ hreport
    | error e c' =>
      rw [hload] at hlater
      have hsettled' : ∀ entries, c'.tables.shown = .ok entries → Settled worlds entries := by
        intro entries hentries
        exact (hsettled entries ((hshown e c' hload).symm.trans hentries)).tail
      refine .cons ?_ (ih c' hsettle.of_cons hsettled' hlater)
      intro report hreport shown₁ shown₂ hfirst
      contradiction

def sampleTopUp (status : CashuWalletActivityStatus) (expiresAtUnix : Option UInt64) :
    CashuWalletActivityEntry where
  id := "entry-topup"
  kind := .topUp
  status := status
  mintUrl := "https://mint.example"
  unit := "sat"
  amountSat := 5
  feeSat := none
  createdAtUnix := 1700000000
  expiresAtUnix := expiresAtUnix
  quoteId := some "quote-1"
  operationId := none
  paymentRequest := some "lnbc5n1p0test"
  token := none

def sampleTopUpDatabase (entry : CashuWalletActivityEntry) : WalletDatabase :=
  { WalletDatabase.fresh with activity := some (entriesToJson [entry]) }

def sampleTopUpWorld (quotes : List TopupMintQuote) (nowUnix : UInt64) : ActivityWorld where
  wallets := [⟨"https://mint.example", .ok quotes, fun _ => .ok false⟩]
  nowUnix := nowUnix
  parseUuid := fun _ => none

def sampleQuote : TopupMintQuote := ⟨"quote-1", .issued, 1700000300⟩

theorem shown_sampleTopUp (entry : CashuWalletActivityEntry) :
    (sampleTopUpDatabase entry).shown = .ok [entry] := by
  have hsorted : sortWalletActivityEntries [entry] = [entry] := by
    rw [sortWalletActivityEntries_eq_newest]
    simp [newest, newestFirst, kMaxWalletActivityEntries]
  exact WalletDatabase.shown_eq_ok.mpr ⟨[entry], entriesFromJson_toJson [entry], hsorted.symm⟩

theorem settled_pending (worlds : List ActivityWorld) (expiresAtUnix : Option UInt64) :
    ∀ entries, (sampleTopUpDatabase (sampleTopUp .pending expiresAtUnix)).shown = .ok entries →
      Settled worlds entries := by
  intro entries hentries entry hmem hcompleted
  obtain rfl := Except.ok.inj ((shown_sampleTopUp _).symm.trans hentries)
  rw [List.mem_singleton] at hmem
  obtain ⟨-, hstatus⟩ := hcompleted
  rw [hmem] at hstatus
  contradiction

theorem finds_sample {nowUnix : UInt64} {quoteId : String} {quote : TopupMintQuote}
    (h : (sampleTopUpWorld [sampleQuote] nowUnix).Finds quoteId quote) : quote = sampleQuote := by
  obtain ⟨maps, hmaps, hfound⟩ := h
  obtain rfl := Except.ok.inj hmaps
  change ((∅ : BTreeMap String TopupMintQuote).insert "quote-1" sampleQuote)[quoteId]? = _ at hfound
  by_cases hid : "quote-1" = quoteId
  · subst hid
    rw [BTreeMap.getElem?_insert_self] at hfound
    exact (Option.some.inj hfound).symm
  · rw [BTreeMap.getElem?_insert_ne _ _ hid] at hfound
    simp at hfound

theorem finds_sample_gone {nowUnix : UInt64} {quoteId : String} {quote : TopupMintQuote} :
    ¬(sampleTopUpWorld [] nowUnix).Finds quoteId quote := by
  rintro ⟨maps, hmaps, hfound⟩
  obtain rfl := Except.ok.inj hmaps
  change (∅ : BTreeMap String TopupMintQuote)[quoteId]? = _ at hfound
  simp at hfound

theorem refresh_issued (status : CashuWalletActivityStatus) (expiresAtUnix : Option UInt64)
    (nowUnix : UInt64) (maps : ActivityMaps)
    (hmaps : (sampleTopUpWorld [sampleQuote] nowUnix).maps = .ok maps) :
    [sampleTopUp status expiresAtUnix].mapM
      (refreshEntry (sampleTopUpWorld [sampleQuote] nowUnix) maps) =
        .ok [sampleTopUp .complete expiresAtUnix] := by
  obtain rfl := Except.ok.inj hmaps
  rfl

theorem refresh_gone (status : CashuWalletActivityStatus) (maps : ActivityMaps)
    (hmaps : (sampleTopUpWorld [] 1700000250).maps = .ok maps) :
    [sampleTopUp status (some 1700000300)].mapM
      (refreshEntry (sampleTopUpWorld [] 1700000250) maps) =
        .ok [sampleTopUp status (some 1700000300)] := by
  obtain rfl := Except.ok.inj hmaps
  rfl

theorem NeverLapses.of_load {shown : List CashuWalletActivityEntry}
    {c' : Connection String WalletDatabase} (hload : loadWalletActivity world c = .ok shown c')
    (hnow : ∀ entries maps, c.tables.shown = .ok entries → LoadAnswered world c maps entries →
      ∀ entry ∈ entries, ¬Lapses world maps entry)
    (hlater : NeverLapses worlds c') : NeverLapses (world :: worlds) c := by
  unfold NeverLapses
  rw [hload]
  exact ⟨hnow, hlater⟩

/-- A top-up is completed, its quote is gone before its time is over, and back after it. -/
def sampleTopUpWorlds : List ActivityWorld :=
  [sampleTopUpWorld [sampleQuote] 1700000200, sampleTopUpWorld [] 1700000250,
    sampleTopUpWorld [sampleQuote] 1700000400]

theorem sampleTopUpWorlds_settle : QuotesSettle sampleTopUpWorlds := by
  have hstate : ∀ later ∈ sampleTopUpWorlds, ∀ quoteId quote,
      later.Finds quoteId quote → quote.state ≠ .unpaid := by
    intro later hlater quoteId quote hquote
    simp only [sampleTopUpWorlds, List.mem_cons, List.not_mem_nil, or_false] at hlater
    rcases hlater with rfl | rfl | rfl
    · rw [finds_sample hquote]
      decide
    · exact absurd hquote finds_sample_gone
    · rw [finds_sample hquote]
      decide
  refine List.pairwise_of_forall_mem_list fun _ _ later hlater quoteId _ quote' _ _ hquote' => ?_
  exact hstate later hlater quoteId quote' hquote'

theorem sampleTopUpWorlds_neverLapse :
    NeverLapses sampleTopUpWorlds
      ⟨sampleTopUpDatabase (sampleTopUp .pending (some 1700000300)), []⟩ := by
  obtain ⟨database₁, hload₁, hshown₁⟩ := loadWalletActivity_unrefused
    (shown_sampleTopUp (sampleTopUp .pending (some 1700000300))) rfl
    (refresh_issued _ _ 1700000200 _ rfl)
  obtain ⟨database₂, hload₂, hshown₂⟩ := loadWalletActivity_unrefused hshown₁ rfl
    (refresh_gone _ _ rfl)
  obtain ⟨database₃, hload₃, -⟩ := loadWalletActivity_unrefused hshown₂ rfl
    (refresh_issued _ _ 1700000400 _ rfl)
  refine .of_load hload₁ ?_ (.of_load hload₂ ?_ (.of_load hload₃ ?_ trivial))
  · rintro entries maps hentries - entry hmem ⟨⟨-, hcomplete⟩, -⟩
    obtain rfl := Except.ok.inj ((shown_sampleTopUp _).symm.trans hentries)
    rw [List.mem_singleton.mp hmem] at hcomplete
    contradiction
  · rintro entries maps hentries - entry hmem ⟨-, _, expiry, -, -, hexpiry, -, hover⟩
    obtain rfl := Except.ok.inj (hshown₁.symm.trans hentries)
    rw [List.mem_singleton.mp hmem] at hexpiry
    obtain rfl := Option.some.inj hexpiry
    exact absurd hover (by decide)
  · rintro entries maps hentries hanswered entry hmem ⟨-, quoteId, -, hquote, hgone, -⟩
    obtain rfl := Except.ok.inj (hshown₂.symm.trans hentries)
    rw [List.mem_singleton.mp hmem] at hquote
    obtain rfl := Option.some.inj hquote
    obtain rfl := Except.ok.inj hanswered.quotes
    have hfound : ((∅ : BTreeMap String TopupMintQuote).insert "quote-1" sampleQuote)["quote-1"]? =
      some sampleQuote := BTreeMap.getElem?_insert_self _ _ _
    exact absurd (hfound.symm.trans hgone) (by simp)

theorem completed_stays_completed_sample :
    (loadAll sampleTopUpWorlds ⟨sampleTopUpDatabase (sampleTopUp .pending (some 1700000300)),
      []⟩).Pairwise StaysCompleted :=
  completed_stays_completed _ _ sampleTopUpWorlds_settle (settled_pending _ _)
    sampleTopUpWorlds_neverLapse

/-- A quote that has been issued is gone at the next load, after the time of its entry. -/
theorem completed_top_up_expires :
    ∃ worlds c, QuotesSettle worlds ∧
      (worlds.Pairwise fun earlier later => earlier.nowUnix ≤ later.nowUnix) ∧
      (∀ entries, c.tables.shown = .ok entries → Settled worlds entries) ∧
      ¬(loadAll worlds c).Pairwise StaysCompleted := by
  have hsettle : QuotesSettle
      [sampleTopUpWorld [sampleQuote] 1700000200, sampleTopUpWorld [] 1700000400] := by
    refine .cons ?_ (List.pairwise_singleton _ _)
    intro later hlater quoteId quote quote' _ _ hquote'
    rw [List.mem_singleton.mp hlater] at hquote'
    exact absurd hquote' finds_sample_gone
  have hexpires : ∀ maps, (sampleTopUpWorld [] 1700000400).maps = .ok maps →
      [sampleTopUp .complete (some 1700000300)].mapM
        (refreshEntry (sampleTopUpWorld [] 1700000400) maps) =
      .ok [sampleTopUp .expired (some 1700000300)] := by
    intro maps hmaps
    obtain rfl := Except.ok.inj hmaps
    rfl
  obtain ⟨database₁, hload₁, hshown₁⟩ := loadWalletActivity_unrefused
    (shown_sampleTopUp (sampleTopUp .pending (some 1700000300))) rfl
    (refresh_issued _ _ 1700000200 _ rfl)
  obtain ⟨database₂, hload₂, -⟩ := loadWalletActivity_unrefused hshown₁ rfl (hexpires _ rfl)
  refine ⟨_, ⟨sampleTopUpDatabase (sampleTopUp .pending (some 1700000300)), []⟩, hsettle,
    by decide, settled_pending _ _, ?_⟩
  intro hstays
  simp only [loadAll, hload₁, hload₂, List.pairwise_cons, List.mem_singleton] at hstays
  have hlater := hstays.1 _ rfl _ _ rfl rfl 0 _ rfl ⟨rfl, rfl⟩
  exact absurd hlater (by decide)

end CashuService

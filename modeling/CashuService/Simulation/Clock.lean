import CashuService.Base.AtomicObject
import CashuService.Base.RustStd
set_option autoImplicit false

namespace CashuService

/-! `simulation/clock.rs`: one atomic word that any number of threads advance, set and read. A
thread answers an error of its own when it is given up before it is through with its loop. -/

inductive ClockError where
  | overflow
  | wentBackwards (previous now : UInt64)
  deriving DecidableEq, Repr

/-- A weak exchange may fail for no reason, which is the only thing its surroundings decide. -/
abbrev ClockM := ExceptT Unit (Thread Bool UInt64)

namespace VirtualClock

def load : ClockM UInt64 := ExceptT.mk (Thread.atomic (fun _ now => some now) fun _ now => .ok now)

/-- `AtomicU64::compare_exchange`, and its weak form: what was found is the result either way. -/
def compareExchange (weak : Bool) (current new : UInt64) : ClockM (Except UInt64 UInt64) :=
  ExceptT.mk (Thread.atomic
    (fun spurious now => some (if now = current ∧ ¬(weak ∧ spurious) then new else now))
    fun spurious now =>
      .ok (if now = current ∧ ¬(weak ∧ spurious) then .ok now else .error now))

/-- The loop of `AtomicU64::fetch_update`, for as many rounds as the thread is given. -/
def fetchUpdateFrom (f : UInt64 → Option UInt64) : Nat → UInt64 → ClockM (Except UInt64 UInt64)
  | 0, _ => throw ()
  | rounds + 1, previous => do
    match f previous with
    | none => return .error previous
    | some next =>
      match ← compareExchange true previous next with
      | .ok previous => return .ok previous
      | .error found => fetchUpdateFrom f rounds found

def fetchUpdate (f : UInt64 → Option UInt64) (rounds : Nat) : ClockM (Except UInt64 UInt64) := do
  fetchUpdateFrom f rounds (← load)

def advance (seconds : UInt64) (rounds : Nat) : ClockM (Except ClockError UInt64) := do
  match ← fetchUpdate (fun now => now.checkedAdd seconds) rounds with
  | .ok previous => return .ok (previous + seconds)
  | .error _ => return .error .overflow

def set (now : UInt64) : Nat → ClockM (Except ClockError UInt64)
  | 0 => throw ()
  | rounds + 1 => do
    let previous ← load
    if now < previous then return .error (.wentBackwards previous now)
    else
      match ← compareExchange false previous now with
      | .ok _ => return .ok now
      | .error _ => set now rounds

def now : ClockM (Except ClockError UInt64) := do return .ok (← load)

end VirtualClock

inductive ClockCall where
  | advance (seconds : UInt64)
  | set (now : UInt64)
  | now
  deriving DecidableEq, Repr

def ClockCall.perform (rounds : Nat) : ClockCall → ClockM (Except ClockError UInt64)
  | .advance seconds => VirtualClock.advance seconds rounds
  | .set later => VirtualClock.set later rounds
  | .now => VirtualClock.now

def atomicClock : AtomicObject UInt64 ClockCall (Except ClockError UInt64) where
  apply
    | .advance seconds, now =>
      match now.checkedAdd seconds with
      | some later => (.ok later, later)
      | none => (.error .overflow, now)
    | .set later, now =>
      if later < now then (.error (.wentBackwards now later), now) else (.ok later, later)
    | .now, now => (.ok now, now)

section

variable {now next later seconds : UInt64}

theorem advance_apply (h : now.checkedAdd seconds = some next) :
    atomicClock.apply (.advance seconds) now = (.ok next, next) := by
  simp only [atomicClock, h]

theorem advance_apply_overflow (h : now.checkedAdd seconds = none) :
    atomicClock.apply (.advance seconds) now = (.error .overflow, now) := by
  simp only [atomicClock, h]

theorem set_apply (h : ¬later < now) : atomicClock.apply (.set later) now = (.ok later, later) :=
  if_neg h

theorem set_apply_backwards (h : later < now) :
    atomicClock.apply (.set later) now = (.error (.wentBackwards now later), now) :=
  if_pos h

/-- No call moves the clock back, and one that is refused does not move it at all. -/
theorem atomicClock_moves (call : ClockCall) (now : UInt64) :
    now ≤ (atomicClock.apply call now).2 ∧ ∀ error,
      (atomicClock.apply call now).1 = .error error → (atomicClock.apply call now).2 = now := by
  cases call with
  | advance seconds =>
    cases hadd : now.checkedAdd seconds with
    | none => simp [advance_apply_overflow hadd]
    | some next =>
      have hsum := UInt64.checkedAdd_eq_some.mp hadd
      rw [advance_apply hadd]
      exact ⟨UInt64.le_iff_toNat_le.mpr (by simp only; omega), by simp⟩
  | set later =>
    by_cases hlater : later < now
    · simp [set_apply_backwards hlater]
    · rw [set_apply hlater]
      exact ⟨UInt64.not_lt.mp hlater, by simp⟩
  | now => simp [atomicClock]

end

namespace VirtualClock

open AtomicObject

variable {previous next seconds : UInt64} {rounds : Nat} {ι : Type} {calls : ι → ClockCall}
  {start : UInt64} {i : ι} {w : UInt64 × List (ι × Except ClockError UInt64)}

theorem load_tries {ok : UInt64 → UInt64 × List (ι × Except ClockError UInt64) → Prop}
    (hpending : Pending i w)
    (h : ∀ w', (atomicClock.protocol calls start).inv w' → Pending i w' →
      ∃ g, (atomicClock.protocol calls start).inv (w'.1, g) ∧
        (atomicClock.protocol calls start).guar i w' (w'.1, g) ∧ ok w'.1 (w'.1, g)) :
    (atomicClock.protocol calls start).Tries i load w (fun _ _ => True) ok := by
  refine Protocol.Keeps.atomic fun w' hothers hinv r s hs => ?_
  obtain rfl := Option.some.inj hs
  exact h w' hinv (pending_stable.others hothers hpending)

/-- An exchange, which takes place or finds another value, and may be the moment of the call. -/
theorem compareExchange_tries {weak : Bool}
    {ok : Except UInt64 UInt64 → UInt64 × List (ι × Except ClockError UInt64) → Prop}
    (hpending : Pending i w)
    (hswap : ∀ w', (atomicClock.protocol calls start).inv w' → Pending i w' → w'.1 = previous →
      ∃ g, (atomicClock.protocol calls start).inv (next, g) ∧
        (atomicClock.protocol calls start).guar i w' (next, g) ∧ ok (.ok previous) (next, g))
    (hfound : ∀ w', (atomicClock.protocol calls start).inv w' → Pending i w' →
      ∃ g, (atomicClock.protocol calls start).inv (w'.1, g) ∧
        (atomicClock.protocol calls start).guar i w' (w'.1, g) ∧ ok (.error w'.1) (w'.1, g)) :
    (atomicClock.protocol calls start).Tries i (compareExchange weak previous next) w
      (fun _ _ => True) ok := by
  refine Protocol.Keeps.atomic fun w' hothers hinv spurious s hs => ?_
  have hpending' := pending_stable.others hothers hpending
  obtain rfl := Option.some.inj hs
  by_cases hswaps : w'.1 = previous ∧ ¬(weak ∧ spurious)
  · simp only [if_pos hswaps]
    rw [hswaps.1]
    exact hswap w' hinv hpending' hswaps.1
  · simp only [if_neg hswaps]
    exact hfound w' hinv hpending'

def Seen (seconds previous : UInt64) (i : ι)
    (w : UInt64 × List (ι × Except ClockError UInt64)) : Prop :=
  match previous.checkedAdd seconds with
  | none => Answered i (.error .overflow) w
  | some _ => Pending i w

theorem seen_now (hcall : calls i = .advance seconds)
    (hinv : (atomicClock.protocol calls start).inv w) (hpending : Pending i w) :
    ∃ g, (atomicClock.protocol calls start).inv (w.1, g) ∧
      (atomicClock.protocol calls start).guar i w (w.1, g) ∧ Seen seconds w.1 i (w.1, g) := by
  unfold Seen
  cases hadd : w.1.checkedAdd seconds with
  | none =>
    exact makes hinv hpending (by rw [hcall, advance_apply_overflow hadd])
  | some next => exact waits hinv hpending

def advanced (seconds : UInt64) : Except UInt64 UInt64 → Except ClockError UInt64
  | .ok previous => .ok (previous + seconds)
  | .error _ => .error .overflow

theorem fetchUpdateFrom_tries (hcall : calls i = .advance seconds)
    (hseen : Seen seconds previous i w) :
    (atomicClock.protocol calls start).Tries i
      (fetchUpdateFrom (fun now => now.checkedAdd seconds) rounds previous) w (fun _ _ => True)
      fun r => Answered i (advanced seconds r) := by
  induction rounds generalizing previous w with
  | zero => exact .throw trivial
  | succ rounds ih =>
    unfold Seen at hseen
    unfold fetchUpdateFrom
    cases hadd : previous.checkedAdd seconds with
    | none =>
      rw [hadd] at hseen
      exact .pure hseen
    | some next =>
      rw [hadd] at hseen
      have hexchange : (atomicClock.protocol calls start).Tries i
          (compareExchange true previous next) w (fun _ _ => True)
          (Protocol.outcomes (fun found => Seen seconds found i)
            fun found w => found = previous ∧ Answered i (.ok next) w) := by
        refine compareExchange_tries hseen (fun w' hinv hpending hsame => ?_)
          fun w' hinv hpending => seen_now hcall hinv hpending
        obtain ⟨g, hg, hguar, hanswered⟩ := makes hinv hpending
          (by rw [hcall, hsame, advance_apply hadd])
        exact ⟨g, hg, hguar, rfl, hanswered⟩
      refine .seq hexchange fun r w' hr => ?_
      cases r with
      | ok found =>
        obtain ⟨rfl, hanswered⟩ := hr
        refine .pure ?_
        rwa [advanced, ← UInt64.eq_add_of_checkedAdd hadd]
      | error found => exact ih hr

theorem advance_implements (seconds : UInt64) (rounds : Nat) :
    atomicClock.Implements (.advance seconds) (advance seconds rounds) := by
  intro ι calls start i w hcall hpending
  have hload : (atomicClock.protocol calls start).Tries i load w (fun _ _ => True)
      fun previous => Seen seconds previous i :=
    load_tries hpending fun w' hinv hpending' => seen_now hcall hinv hpending'
  refine .seq (.seq hload fun previous w' hseen => fetchUpdateFrom_tries hcall hseen) ?_
  intro r w' hr
  cases r with
  | ok previous => exact .pure hr
  | error found => exact .pure hr

theorem set_implements (later : UInt64) (rounds : Nat) :
    atomicClock.Implements (.set later) (set later rounds) := by
  intro ι calls start i w hcall hpending
  induction rounds generalizing w with
  | zero => exact .throw trivial
  | succ rounds ih =>
    have hload : (atomicClock.protocol calls start).Tries i load w (fun _ _ => True)
        fun previous w =>
          (later < previous → Answered i (.error (.wentBackwards previous later)) w) ∧
          (¬later < previous → Pending i w) := by
      refine load_tries hpending fun w' hinv hpending' => ?_
      by_cases hlater : later < w'.1
      · obtain ⟨g, hg, hguar, hanswered⟩ := makes hinv hpending'
          (by rw [hcall, set_apply_backwards hlater])
        exact ⟨g, hg, hguar, fun _ => hanswered, fun h => absurd hlater h⟩
      · obtain ⟨g, hg, hguar, hpending₂⟩ := waits hinv hpending'
        exact ⟨g, hg, hguar, fun h => absurd h hlater, fun _ => hpending₂⟩
    refine .seq hload fun previous w' hread => ?_
    refine .ite (fun hlater => .pure (hread.1 hlater)) fun hlater => ?_
    have hexchange : (atomicClock.protocol calls start).Tries i
        (compareExchange false previous later) w' (fun _ _ => True)
        (Protocol.outcomes (fun _ => Pending i) fun _ => Answered i (.ok later)) := by
      refine compareExchange_tries (hread.2 hlater) (fun w₂ hinv hpending₂ hsame => ?_)
        fun w₂ hinv hpending₂ => waits hinv hpending₂
      exact makes hinv hpending₂ (by rw [hcall, hsame, set_apply hlater])
    refine .seq hexchange fun r w'' hr => ?_
    cases r with
    | ok found => exact .pure hr
    | error found => exact ih w'' hr

theorem now_implements : atomicClock.Implements .now VirtualClock.now := by
  intro ι calls start i w hcall hpending
  have hload : (atomicClock.protocol calls start).Tries i load w (fun _ _ => True)
      fun found => Answered i (.ok found) :=
    load_tries hpending fun w' hinv hpending' => makes hinv hpending' (by rw [hcall]; rfl)
  exact .seq hload fun found w' hfound => .pure hfound

end VirtualClock

theorem ClockCall.perform_implements (call : ClockCall) (rounds : Nat) :
    atomicClock.Implements call (call.perform rounds) := by
  cases call with
  | advance seconds => exact VirtualClock.advance_implements seconds rounds
  | set later => exact VirtualClock.set_implements later rounds
  | now => exact VirtualClock.now_implements

/-- Threads that each make one call, and the rounds that each of them is given for it. -/
def clockPool {ι : Type} (calls : ι → ClockCall) (rounds : ι → Nat) (start : UInt64) :
    Pool ι Bool UInt64 (Except Unit (Except ClockError UInt64)) where
  state := start
  threads i := some ((calls i).perform (rounds i)).run

/-- Whatever the threads do in between, their calls take effect one after the other, in one order
for the whole run, and the time never goes back. -/
theorem clock_linearizable {ι : Type} [DecidableEq ι] (calls : ι → ClockCall) (rounds : ι → Nat)
    (start : UInt64) {moves : List (Move ι Bool)}
    {p : Pool ι Bool UInt64 (Except Unit (Except ClockError UInt64))}
    (hp : (clockPool calls rounds start).run (fun _ now => now) moves = some p) :
    ∃ order, AtomicObject.Linearizes atomicClock calls (clockPool calls rounds start) moves order ∧
      ∀ k l q q', k ≤ l →
        (clockPool calls rounds start).run (fun _ now => now) (moves.take k) = some q →
        (clockPool calls rounds start).run (fun _ now => now) (moves.take l) = some q' →
        start ≤ q.state ∧ q.state ≤ q'.state := by
  have himplements : ∀ i x, (clockPool calls rounds start).threads i = some x →
      atomicClock.Implements (calls i) (ExceptT.mk x) := by
    intro i x hx
    obtain rfl := Option.some.inj hx
    exact (calls i).perform_implements (rounds i)
  obtain ⟨order, hlin⟩ := AtomicObject.linearizes himplements hp
  have hle : ∀ {h h' : List (ι × Except ClockError UInt64)} {now now' : UInt64},
      atomicClock.History calls start h now → atomicClock.History calls start h' now' →
      h <+: h' → now ≤ now' := fun hh hh' hgrows =>
    hh.related UInt64.le_refl (fun _ _ _ => UInt64.le_trans) (fun call now =>
      (atomicClock_moves call now).1) hh' hgrows
  refine ⟨order, hlin, fun k l q q' hkl hq hq' => ?_⟩
  have hmade := (hlin.ordered k q hq).made
  have hmade' := (hlin.ordered l q' hq').made
  exact ⟨hle .nil hmade List.nil_prefix, hle hmade hmade' (hlin.grows k l hkl)⟩

theorem clock_linearizable_sample :
    let calls : Bool → ClockCall := fun i => if i then .advance 5 else .now
    let moves : List (Move Bool Bool) :=
      [.act false false, .act true false, .act true true, .act true false]
    ∃ p, (clockPool calls (fun _ => 2) 10).run (fun _ now => now) moves = some p ∧
      p.ended true = some (.ok (.ok 15)) ∧
      ∃ order, AtomicObject.Linearizes atomicClock calls (clockPool calls (fun _ => 2) 10) moves
        order := by
  intro calls moves
  refine ⟨_, rfl, rfl, ?_⟩
  obtain ⟨order, hlin, -⟩ := @clock_linearizable Bool _ calls (fun _ => 2) 10 moves _ rfl
  exact ⟨order, hlin⟩

end CashuService

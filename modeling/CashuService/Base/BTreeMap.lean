import Mathlib
set_option autoImplicit false

namespace CashuService

/-- An ordered map that is determined by its lookups: the `BTreeMap` of the Rust standard
library, whose iteration order is the key order. -/
abbrev BTreeMap (κ α : Type) [Ord κ] := Std.ExtTreeMap κ α compare

/-- Pairs are ordered first by the left component, as Rust orders tuples. -/
instance instOrdPair {κ μ : Type} [Ord κ] [Ord μ] : Ord (κ × μ) := lexOrd

namespace BTreeMap

variable {κ α β : Type} [Ord κ] [Std.TransOrd κ]

def sumOf (f : α → Nat) (m : BTreeMap κ α) : Nat := (m.toList.map fun e => f e.2).sum

@[simp] theorem sumOf_empty (f : α → Nat) : sumOf f (∅ : BTreeMap κ α) = 0 := rfl

theorem isEmpty_eq_false_iff_exists {m : BTreeMap κ α} :
    m.isEmpty = false ↔ ∃ k, k ∈ m := by
  rw [Std.ExtTreeMap.isEmpty_eq_false_iff, Std.ExtTreeMap.eq_empty_iff_forall_not_mem]
  simp

theorem mem_iff_exists {m : BTreeMap κ α} {k : κ} : k ∈ m ↔ ∃ v, m[k]? = some v := by
  rw [Std.ExtTreeMap.mem_iff_isSome_getElem?, Option.isSome_iff_exists]

theorem getElem?_eq_none_iff {m : BTreeMap κ α} {k : κ} : m[k]? = none ↔ k ∉ m := by
  rw [Std.ExtTreeMap.mem_iff_isSome_getElem?, Option.not_isSome_iff_eq_none]

theorem mem_of_getElem? {m : BTreeMap κ α} {k : κ} {v : α} (h : m[k]? = some v) : k ∈ m :=
  mem_iff_exists.mpr ⟨v, h⟩

theorem size_eq_sumOf (m : BTreeMap κ α) : m.size = sumOf (fun _ => 1) m := by
  simp [sumOf]

theorem getElem?_modify_self (m : BTreeMap κ α) (k : κ) (g : α → α) :
    (m.modify k g)[k]? = m[k]?.map g := by simp

theorem sumOf_map (m : BTreeMap κ α) (g : κ → α → β) (f : β → Nat) (f' : α → Nat)
    (h : ∀ k v, f (g k v) = f' v) : sumOf f (m.map g) = sumOf f' m := by
  simp [sumOf, Std.ExtTreeMap.toList_map, Function.comp_def, h]

def Each (m : BTreeMap κ α) (P : κ → α → Prop) : Prop :=
  ∀ (k : κ) (v : α), m[k]? = some v → P k v

theorem Each.imp {m : BTreeMap κ α} {P Q : κ → α → Prop} (h : Each m P)
    (hpq : ∀ k v, P k v → Q k v) : Each m Q := fun k v hv => hpq k v (h k v hv)

/-- Every entry of `m` is still there in `n`, with the same value. -/
def Extends (n m : BTreeMap κ α) : Prop :=
  ∀ (k : κ) (v : α), m[k]? = some v → n[k]? = some v

theorem Extends.refl (m : BTreeMap κ α) : Extends m m := fun _ _ h => h

theorem Extends.trans {l m n : BTreeMap κ α} (hlm : Extends m l) (hmn : Extends n m) :
    Extends n l := fun k v h => hmn k v (hlm k v h)

variable [Std.LawfulEqOrd κ]

theorem getElem?_insert_self (m : BTreeMap κ α) (k : κ) (v : α) :
    (m.insert k v)[k]? = some v := by simp

theorem getElem?_insert_ne (m : BTreeMap κ α) {k j : κ} (v : α) (h : k ≠ j) :
    (m.insert k v)[j]? = m[j]? := by
  simp [Std.ExtTreeMap.getElem?_insert, h]

theorem getElem?_modify_ne (m : BTreeMap κ α) {k j : κ} (g : α → α) (h : k ≠ j) :
    (m.modify k g)[j]? = m[j]? := by
  simp [Std.ExtTreeMap.getElem?_modify, h]

omit [Std.LawfulEqOrd κ] in
theorem getElem?_insert_congr {m n : BTreeMap κ α} {j : κ} (k : κ) (v : α) (h : n[j]? = m[j]?) :
    (n.insert k v)[j]? = (m.insert k v)[j]? := by
  simp only [Std.ExtTreeMap.getElem?_insert, h]

theorem getElem?_modify_congr {m n : BTreeMap κ α} {j : κ} (k : κ) (g : α → α)
    (h : n[j]? = m[j]?) : (n.modify k g)[j]? = (m.modify k g)[j]? := by
  by_cases hj : k = j
  · subst j
    rw [getElem?_modify_self, getElem?_modify_self, h]
  · rw [getElem?_modify_ne n g hj, getElem?_modify_ne m g hj, h]

theorem modify_eq_const {m : BTreeMap κ α} {k : κ} {v : α} (g : α → α) (h : m[k]? = some v) :
    m.modify k g = m.modify k fun _ => g v := by
  apply Std.ExtTreeMap.ext_getElem?
  intro j
  by_cases hj : k = j
  · subst j; simp [h]
  · rw [getElem?_modify_ne m g hj, getElem?_modify_ne m _ hj]

theorem modify_eq_self {m : BTreeMap κ α} {k : κ} {v : α} (h : m[k]? = some v) :
    m.modify k (fun _ => v) = m := by
  apply Std.ExtTreeMap.ext_getElem?
  intro j
  by_cases hj : k = j
  · subst j; simp [h]
  · exact getElem?_modify_ne m _ hj

theorem mem_entries {m : BTreeMap κ α} {k : κ} {v : α} :
    (k, v) ∈ m.toList ↔ m[k]? = some v :=
  Std.ExtTreeMap.mem_toList_iff_getElem?_eq_some

theorem each_iff_entries {m : BTreeMap κ α} {P : κ → α → Prop} :
    m.Each P ↔ ∀ e ∈ m.toList, P e.1 e.2 :=
  ⟨fun h e he => h e.1 e.2 (mem_entries.mp he), fun h k v hv => h (k, v) (mem_entries.mpr hv)⟩

/-- The values of a map that files each under its own key come in the order of their keys. -/
theorem values_ordered {m : BTreeMap κ α} {key : α → κ} (h : m.Each fun k v => k = key v) :
    (m.toList.map (·.2)).Pairwise fun v w => compare (key v) (key w) = .lt := by
  have hkey := each_iff_entries.mp h
  rw [List.pairwise_map]
  apply Std.ExtTreeMap.ordered_keys_toList.imp_of_mem
  intro x y hx hy hxy
  rwa [← hkey x hx, ← hkey y hy]

theorem ext_entries {m n : BTreeMap κ α} (h : m.toList = n.toList) : m = n := by
  apply Std.ExtTreeMap.ext_getElem?
  intro k
  apply Option.ext
  intro v
  rw [← mem_entries, ← mem_entries, h]

theorem map_map_eq (m : BTreeMap κ α) (f : α → β) (g : β → α) (h : ∀ v, g (f v) = v) :
    ((m.map fun _ v => f v).map fun _ v => g v) = m := by
  apply Std.ExtTreeMap.ext_getElem?
  intro k
  simp [h]

theorem entries_nodup (m : BTreeMap κ α) : m.toList.Nodup := by
  have hd := Std.ExtTreeMap.distinct_keys_toList (t := m)
  refine hd.imp ?_
  rintro a b hab rfl
  exact hab Std.ReflOrd.compare_self

theorem entries_insert_perm {m : BTreeMap κ α} {k : κ} (v : α) (h : m[k]? = none) :
    (m.insert k v).toList.Perm ((k, v) :: m.toList) := by
  have hk : (k, v) ∉ m.toList := by simp [h]
  rw [List.perm_ext_iff_of_nodup (entries_nodup _) ((entries_nodup m).cons hk)]
  rintro ⟨j, w⟩
  rw [mem_entries, List.mem_cons, mem_entries]
  by_cases hj : k = j
  · subst j
    simp [h, eq_comm]
  · simp [getElem?_insert_ne m v hj, Ne.symm hj]

theorem insert_erase {m : BTreeMap κ α} {k : κ} {v : α} (h : m[k]? = some v) :
    (m.erase k).insert k v = m := by
  apply Std.ExtTreeMap.ext_getElem?
  intro j
  by_cases hj : k = j
  · subst j; simp [h]
  · simp [getElem?_insert_ne _ v hj, Std.ExtTreeMap.getElem?_erase, hj]

theorem insert_erase_modify {m : BTreeMap κ α} {k : κ} {v : α} (g : α → α)
    (h : m[k]? = some v) : (m.erase k).insert k (g v) = m.modify k g := by
  apply Std.ExtTreeMap.ext_getElem?
  intro j
  by_cases hj : k = j
  · subst j; simp [h]
  · simp [getElem?_insert_ne _ _ hj, getElem?_modify_ne m g hj,
      Std.ExtTreeMap.getElem?_erase, hj]

theorem sumOf_insert {m : BTreeMap κ α} {k : κ} (f : α → Nat) (v : α) (h : m[k]? = none) :
    sumOf f (m.insert k v) = sumOf f m + f v := by
  have hp := ((entries_insert_perm v h).map fun e => f e.2).sum_eq
  simp only [sumOf, hp, List.map_cons, List.sum_cons]
  omega

theorem sumOf_modify {m : BTreeMap κ α} {k : κ} {v : α} (f : α → Nat) (g : α → α)
    (h : m[k]? = some v) : sumOf f (m.modify k g) + f v = sumOf f m + f (g v) := by
  have hk : (m.erase k)[k]? = none := by simp
  have hold := sumOf_insert f v hk
  have hnew := sumOf_insert f (g v) hk
  rw [insert_erase h] at hold
  rw [insert_erase_modify g h] at hnew
  omega

theorem insert_eq_modify {m : BTreeMap κ α} {k : κ} {v : α} (w : α) (h : m[k]? = some v) :
    m.insert k w = m.modify k fun _ => w := by
  apply Std.ExtTreeMap.ext_getElem?
  intro j
  by_cases hj : k = j
  · subst j; simp [h]
  · rw [getElem?_insert_ne m w hj, getElem?_modify_ne m _ hj]

theorem mem_insert {m : BTreeMap κ α} {k j : κ} {v : α} : j ∈ m.insert k v ↔ j = k ∨ j ∈ m := by
  rw [Std.ExtTreeMap.mem_insert, Std.LawfulEqOrd.compare_eq_iff_eq, eq_comm]

theorem mem_insert_of_mem {m : BTreeMap κ α} {k j : κ} (v : α) (h : k ∈ m) :
    j ∈ m.insert k v ↔ j ∈ m := by
  by_cases hj : k = j
  · subst j; simp [h]
  · simp [hj]

theorem sumOf_insert_some {m : BTreeMap κ α} {k : κ} {v : α} (f : α → Nat) (w : α)
    (h : m[k]? = some v) : sumOf f (m.insert k w) + f v = sumOf f m + f w := by
  rw [insert_eq_modify w h]
  exact sumOf_modify f (fun _ => w) h

theorem size_insert {m : BTreeMap κ α} {k : κ} (v : α) (h : m[k]? = none) :
    (m.insert k v).size = m.size + 1 := by
  rw [size_eq_sumOf, size_eq_sumOf, sumOf_insert _ v h]

theorem le_sumOf {m : BTreeMap κ α} {k : κ} {v : α} (f : α → Nat) (h : m[k]? = some v) :
    f v ≤ sumOf f m :=
  List.le_sum_of_mem (List.mem_map.mpr ⟨(k, v), mem_entries.mpr h, rfl⟩)

theorem sumOf_congr {m : BTreeMap κ α} {f g : α → Nat}
    (h : ∀ (k : κ) (v : α), m[k]? = some v → f v = g v) : sumOf f m = sumOf g m := by
  have hm : m.toList.map (fun e => f e.2) = m.toList.map (fun e => g e.2) :=
    List.map_congr_left fun e he => h e.1 e.2 (mem_entries.mp he)
  simp only [sumOf, hm]

theorem Extends.insert {m : BTreeMap κ α} {k : κ} (v : α) (h : m[k]? = none) :
    Extends (m.insert k v) m := by
  intro j w hj
  have hne : k ≠ j := by rintro rfl; simp [h] at hj
  rw [getElem?_insert_ne m v hne, hj]

/-- What holds of every entry holds after one entry is changed into one of which it holds. -/
theorem Each.modify {m : BTreeMap κ α} {k : κ} {g : α → α} {P : κ → α → Prop} (hm : Each m P)
    (hk : ∀ v, m[k]? = some v → P k v → P k (g v)) : Each (m.modify k g) P := by
  intro j v h
  by_cases he : k = j
  · subst j
    rw [getElem?_modify_self, Option.map_eq_some_iff] at h
    obtain ⟨w, hw, rfl⟩ := h
    exact hk w hw (hm k w hw)
  · rw [getElem?_modify_ne m g he] at h
    exact hm j v h

theorem Each.insert {m : BTreeMap κ α} {k : κ} {v : α} {P : κ → α → Prop} (hm : Each m P)
    (hk : P k v) : Each (m.insert k v) P := by
  intro j w h
  by_cases he : k = j
  · subst j
    rw [getElem?_insert_self, Option.some.injEq] at h
    exact h ▸ hk
  · rw [getElem?_insert_ne m v he] at h
    exact hm j w h

/-- Two lists of entries in strictly increasing key order with the same members are equal. -/
theorem eq_of_ordered {l l' : List (κ × α)} (hl : l.Pairwise fun a b => compare a.1 b.1 = .lt)
    (hl' : l'.Pairwise fun a b => compare a.1 b.1 = .lt) (h : ∀ e, e ∈ l ↔ e ∈ l') : l = l' := by
  have hne : ∀ a b : κ × α, compare a.1 b.1 = .lt → a ≠ b := by
    intro a b hab he
    rw [he, Std.ReflOrd.compare_self] at hab
    contradiction
  have hnodup := hl.imp fun hab => hne _ _ hab
  have hnodup' := hl'.imp fun hab => hne _ _ hab
  have hperm := (List.perm_ext_iff_of_nodup hnodup hnodup').mpr h
  apply hperm.eq_of_pairwise _ hl hl'
  intro a b _ _ hab hba
  rw [Std.OrientedOrd.eq_swap, hba] at hab
  contradiction

theorem toList_foldl_insert {β : Type} {l : List β} (key : β → κ) (value : β → α)
    (hl : l.Pairwise fun a b => compare (key a) (key b) = .lt) :
    (l.foldl (fun m b => m.insert (key b) (value b)) (∅ : BTreeMap κ α)).toList =
      l.map fun b => (key b, value b) := by
  have hmem : ∀ (l : List β) (m : BTreeMap κ α),
      (l.Pairwise fun a b => compare (key a) (key b) = .lt) → (∀ b ∈ l, key b ∉ m) →
      ∀ e, e ∈ (l.foldl (fun m b => m.insert (key b) (value b)) m).toList ↔
        e ∈ m.toList ∨ e ∈ l.map fun b => (key b, value b) := by
    intro l
    induction l with
    | nil => simp
    | cons b l ih =>
      intro m hl hm e
      obtain ⟨hb, hl⟩ := List.pairwise_cons.mp hl
      have hfresh : m[key b]? = none := by simpa using hm b List.mem_cons_self
      have hnext : ∀ c ∈ l, key c ∉ m.insert (key b) (value b) := by
        intro c hc hmem
        rcases Std.ExtTreeMap.mem_insert.mp hmem with he | hold
        · rw [hb c hc] at he
          contradiction
        · exact hm c (List.mem_cons_of_mem b hc) hold
      have hp := (entries_insert_perm (value b) hfresh).mem_iff (a := e)
      rw [List.foldl_cons, ih _ hl hnext, hp, List.mem_cons, List.map_cons, List.mem_cons]
      tauto
  apply eq_of_ordered Std.ExtTreeMap.ordered_keys_toList
  · exact List.pairwise_map.mpr hl
  · intro e
    have h := hmem l ∅ hl (by simp) e
    have hempty : (∅ : BTreeMap κ α).toList = [] := rfl
    rw [hempty] at h
    simpa using h

/-- A set of keys of the selected entries has as many members as there are such entries exactly
when it has all of them. -/
theorem size_eq_filter_iff {t : Std.ExtTreeSet κ compare} {m : BTreeMap κ α} {p : α → Bool}
    (h : ∀ k, k ∈ t → ∃ v, m[k]? = some v ∧ p v = true) :
    t.size = (m.toList.filter fun e => p e.2).length ↔
      ∀ k v, m[k]? = some v → p v = true → k ∈ t := by
  have hkeys : ((m.toList.filter fun e => p e.2).map Prod.fst).Nodup := by
    have hd := (Std.ExtTreeMap.distinct_keys_toList (t := m)).filter fun e => p e.2
    refine List.pairwise_map.mpr (hd.imp ?_)
    intro a b hab he
    rw [he, Std.ReflOrd.compare_self] at hab
    contradiction
  have hset : t.toList.Nodup := by
    have hd := Std.ExtTreeSet.distinct_toList (t := t)
    refine hd.imp ?_
    intro a b hab he
    rw [he, Std.ReflOrd.compare_self] at hab
    contradiction
  have hmem : ∀ k, k ∈ (m.toList.filter fun e => p e.2).map Prod.fst ↔
      ∃ v, m[k]? = some v ∧ p v = true := by
    intro k
    simp
  have hsub : t.toList ⊆ (m.toList.filter fun e => p e.2).map Prod.fst := by
    intro k hk
    exact (hmem k).mpr (h k (Std.ExtTreeSet.mem_toList.mp hk))
  have hsubperm := hset.subperm hsub
  have hlength := Std.ExtTreeSet.length_toList (t := t)
  constructor
  · intro hsize k v hv hp
    have hle : ((m.toList.filter fun e => p e.2).map Prod.fst).length ≤ t.toList.length := by
      rw [List.length_map]
      omega
    have hperm := hsubperm.perm_of_length_le hle
    exact Std.ExtTreeSet.mem_toList.mp (hperm.mem_iff.mpr ((hmem k).mpr ⟨v, hv, hp⟩))
  · intro hall
    have hback : (m.toList.filter fun e => p e.2).map Prod.fst ⊆ t.toList := by
      intro k hk
      obtain ⟨v, hv, hp⟩ := (hmem k).mp hk
      exact Std.ExtTreeSet.mem_toList.mpr (hall k v hv hp)
    have hperm := hsubperm.antisymm (hkeys.subperm hback)
    rw [← hlength, hperm.length_eq, List.length_map]

theorem size_eq_size_iff {t : Std.ExtTreeSet κ compare} {m : BTreeMap κ α}
    (h : ∀ k, k ∈ t → k ∈ m) : t.size = m.size ↔ ∀ k, k ∈ m → k ∈ t := by
  have hfilter := size_eq_filter_iff (t := t) (m := m) (p := fun _ => true) fun k hk => by
    obtain ⟨v, hv⟩ := mem_iff_exists.mp (h k hk)
    exact ⟨v, hv, rfl⟩
  rw [List.filter_true, Std.ExtTreeMap.length_toList] at hfilter
  rw [hfilter]
  constructor
  · intro hall k hk
    obtain ⟨v, hv⟩ := mem_iff_exists.mp hk
    exact hall k v hv rfl
  · intro hall k v hv _
    exact hall k (mem_of_getElem? hv)

section

def insertAll (key : α → κ) (l : List α) (m : BTreeMap κ α) : BTreeMap κ α :=
  l.foldl (fun m a => m.insert (key a) a) m

def overwritten (key : α → κ) (f : α → Nat) (l : List α) (m : BTreeMap κ α) : Nat :=
  match l with
  | [] => 0
  | a :: l => (m[key a]?.map f).getD 0 + overwritten key f l (m.insert (key a) a)

variable {key : α → κ} {f : α → Nat} {l : List α} {m : BTreeMap κ α}

theorem sumOf_insertAll (key : α → κ) (f : α → Nat) (l : List α) (m : BTreeMap κ α) :
    sumOf f (insertAll key l m) + overwritten key f l m = sumOf f m + (l.map f).sum := by
  induction l generalizing m with
  | nil => simp [insertAll, overwritten]
  | cons a l ih =>
    have hrest := ih (m.insert (key a) a)
    simp only [insertAll, overwritten, List.foldl_cons, List.map_cons, List.sum_cons] at hrest ⊢
    cases hm : m[key a]? with
    | none =>
      have hinsert := sumOf_insert f a hm
      simp only [Option.map_none, Option.getD_none]
      omega
    | some b =>
      have hinsert := sumOf_insert_some f a hm
      simp only [Option.map_some, Option.getD_some]
      omega

theorem overwritten_eq_zero :
    overwritten key f l m = 0 ↔
      (∀ a ∈ l, ∀ b, m[key a]? = some b → f b = 0) ∧
        l.Pairwise fun a b => key a = key b → f a = 0 := by
  induction l generalizing m with
  | nil => simp [overwritten]
  | cons a l ih =>
    have hhead : (m[key a]?.map f).getD 0 = 0 ↔ ∀ b, m[key a]? = some b → f b = 0 := by
      cases m[key a]? <;> simp
    have hrest : (∀ b ∈ l, ∀ c, (m.insert (key a) a)[key b]? = some c → f c = 0) ↔
        ∀ b ∈ l, (key a = key b → f a = 0) ∧
          (key a ≠ key b → ∀ c, m[key b]? = some c → f c = 0) := by
      refine forall₂_congr fun b _ => ?_
      by_cases hk : key a = key b
      · simp [← hk]
      · simp [getElem?_insert_ne m a hk, hk]
    rw [overwritten, Nat.add_eq_zero_iff, hhead, ih, hrest, List.pairwise_cons]
    constructor
    · rintro ⟨hfirst, hmem, hlater⟩
      refine ⟨?_, fun b hb => (hmem b hb).1, hlater⟩
      intro b hb c hc
      cases hb with
      | head => exact hfirst c hc
      | tail _ hb =>
        by_cases hk : key a = key b
        · exact hfirst c (hk ▸ hc)
        · exact (hmem b hb).2 hk c hc
    · rintro ⟨hmem, hfirst, hlater⟩
      exact ⟨hmem a List.mem_cons_self, fun b hb =>
        ⟨hfirst b hb, fun _ => hmem b (List.mem_cons_of_mem a hb)⟩, hlater⟩

theorem Each.insertAll {P : κ → α → Prop} (hm : Each m P) (hl : ∀ a ∈ l, P (key a) a) :
    Each (insertAll key l m) P := by
  induction l generalizing m with
  | nil => exact hm
  | cons a l ih =>
    exact ih (hm.insert (hl a List.mem_cons_self)) fun b hb => hl b (List.mem_cons_of_mem a hb)

theorem Extends.insertAll (h : ∀ a ∈ l, m[key a]? = none) : Extends (insertAll key l m) m := by
  intro k v hk
  have hgeneral : ∀ (l : List α) (m : BTreeMap κ α), m[k]? = some v → (∀ a ∈ l, key a ≠ k) →
      (BTreeMap.insertAll key l m)[k]? = some v := by
    intro l
    induction l with
    | nil => exact fun _ hm _ => hm
    | cons a l ih =>
      intro m hm hl
      refine ih _ ?_ fun b hb => hl b (List.mem_cons_of_mem a hb)
      rw [getElem?_insert_ne m a (hl a List.mem_cons_self), hm]
  refine hgeneral l m hk ?_
  intro a ha he
  have hnone := h a ha
  rw [he, hk] at hnone
  contradiction

theorem mem_insertAll {k : κ} (h : k ∈ m ∨ ∃ a ∈ l, key a = k) : k ∈ insertAll key l m := by
  induction l generalizing m with
  | nil => simpa [insertAll] using h
  | cons a l ih =>
    apply ih
    rcases h with hm | ⟨b, hb, hk⟩
    · exact Or.inl (by simp [hm])
    · cases hb with
      | head => exact Or.inl (by simp [← hk])
      | tail _ hb => exact Or.inr ⟨b, hb, hk⟩

end
end BTreeMap
end CashuService

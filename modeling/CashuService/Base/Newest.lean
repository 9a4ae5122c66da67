import Mathlib.Data.List.Sort
import Mathlib.Data.List.Nodup
set_option autoImplicit false

/-! The greatest elements of a list by a key. A list that keeps only these, and takes in one
element after the other, holds what sorting everything at once would have kept. -/

namespace CashuService

section

variable {α κ : Type} [LinearOrder κ] (key : α → κ)

def Descends (a b : α) : Prop := key b ≤ key a

instance : DecidableRel (Descends key) := fun a b => inferInstanceAs (Decidable (key b ≤ key a))

def newestFirst (l : List α) : List α := l.mergeSort fun a b => decide (Descends key a b)

def newest (k : Nat) (l : List α) : List α := (newestFirst key l).take k

variable {key} {k : Nat} {l l' : List α} {a : α}

instance : IsTrans α (Descends key) := ⟨fun _ _ _ hab hbc => le_trans hbc hab⟩

instance : Std.Total (Descends key) := ⟨fun a b => le_total (key b) (key a)⟩

variable (key) in
theorem newestFirst_perm (l : List α) : (newestFirst key l).Perm l := List.mergeSort_perm l _

theorem descends_newestFirst (l : List α) : (newestFirst key l).Pairwise (Descends key) :=
  List.pairwise_mergeSort' (Descends key) l

theorem nodup_newestFirst (hkeys : (l.map key).Nodup) : ((newestFirst key l).map key).Nodup :=
  ((newestFirst_perm key l).map key).nodup_iff.mpr hkeys

/-- Two lists of the same elements in descending order are the same if no key occurs twice. -/
theorem eq_of_descends (hkeys : (l.map key).Nodup) (hl : l.Pairwise (Descends key))
    (hl' : l'.Pairwise (Descends key)) (hperm : l.Perm l') : l = l' := by
  refine List.Perm.eq_of_pairwise ?_ hl hl' hperm
  intro a b ha hb hab hba
  exact List.inj_on_of_nodup_map hkeys ha (hperm.symm.subset hb) (le_antisymm hba hab)

theorem newest_perm (hkeys : (l.map key).Nodup) (hperm : l.Perm l') :
    newest key k l = newest key k l' := by
  have hsorted := (newestFirst_perm key l).trans (hperm.trans (newestFirst_perm key l').symm)
  unfold newest
  rw [eq_of_descends (nodup_newestFirst hkeys) (descends_newestFirst l) (descends_newestFirst l')
    hsorted]

theorem newest_of_descends (hl : l.Pairwise (Descends key)) : newest key k l = l.take k := by
  unfold newest newestFirst
  rw [List.mergeSort_of_pairwise (by simpa using hl)]

theorem descends_newest (l : List α) : (newest key k l).Pairwise (Descends key) :=
  (descends_newestFirst l).sublist (List.take_sublist k _)

theorem newest_newest (l : List α) : newest key k (newest key k l) = newest key k l := by
  rw [newest_of_descends (descends_newest l), newest, List.take_take, Nat.min_self]

theorem pairwise_descends : l.Pairwise (Descends key) ↔ (l.map key).Pairwise fun a b => b ≤ a := by
  rw [List.pairwise_map]
  rfl

/-- What is in order stays in order when its elements change but for their keys. -/
theorem newest_eq_self_of_keys (hl : newest key k l = l) (hkeys : l'.map key = l.map key) :
    newest key k l' = l' := by
  have hdescends : (newest key k l).Pairwise (Descends key) := descends_newest l
  rw [hl, pairwise_descends, ← hkeys, ← pairwise_descends] at hdescends
  have hlength : l'.length ≤ k := by
    have hsame := congrArg List.length hkeys
    rw [List.length_map, List.length_map, ← hl, newest] at hsame
    exact hsame ▸ List.length_take_le k _
  rw [newest_of_descends hdescends, List.take_of_length_le hlength]

theorem newest_map {f : α → α} (hf : ∀ a ∈ l, key (f a) = key a) :
    newest key k (l.map f) = (newest key k l).map f := by
  have hsorted : (newestFirst key l).map f = newestFirst key (l.map f) := by
    refine List.map_mergeSort fun a ha b hb => ?_
    exact decide_eq_decide.mpr (by rw [Descends, Descends, hf a ha, hf b hb])
  rw [newest, newest, ← hsorted, List.map_take]

variable (key) in
def latest (l : List α) (a : α) : α := (l.find? fun b => decide (key b = key a)).getD a

theorem latest_eq {b : α} (hkeys : (l.map key).Nodup) (hb : b ∈ l) (hab : key b = key a) :
    latest key l a = b := by
  obtain ⟨c, hc⟩ := Option.isSome_iff_exists.mp
    (List.find?_isSome (p := fun b => decide (key b = key a)).mpr ⟨b, hb, decide_eq_true hab⟩)
  have hca : key c = key a := by simpa using List.find?_some hc
  have hcb := List.inj_on_of_nodup_map hkeys (List.mem_of_find?_eq_some hc) hb
    (hca.trans hab.symm)
  rw [latest, hc, Option.getD_some, hcb]

theorem latest_self (h : ∀ b ∈ l, key b ≠ key a) : latest key l a = a := by
  rw [latest, List.find?_eq_none.mpr (by simpa using h), Option.getD_none]

omit [LinearOrder κ] in
theorem map_key_eq {R : α → α → Prop} (hR : ∀ a b, R a b → key b = key a)
    (h : List.Forall₂ R l l') : l'.map key = l.map key := by
  induction h with
  | nil => rfl
  | cons hab _ ih => rw [List.map_cons, List.map_cons, ih, hR _ _ hab]

theorem newest_updated {R : α → α → Prop} (hrefl : ∀ a, R a a) (hR : ∀ a b, R a b → key b = key a)
    (hkeys : (l.map key).Nodup) (h : List.Forall₂ R (newest key k l) l') :
    ∃ updated, List.Forall₂ R l updated ∧ newest key k updated = l' := by
  have hkept : (l'.map key).Nodup := by
    rw [map_key_eq hR h]
    exact (nodup_newestFirst hkeys).sublist ((List.take_sublist k _).map key)
  have hwithin : newest key k l ⊆ l := fun a ha =>
    (newestFirst_perm key l).subset (List.mem_of_mem_take ha)
  have hlatest : ∀ a ∈ l, R a (latest key l' a) := by
    intro a ha
    by_cases hfound : ∃ b ∈ l', key b = key a
    · obtain ⟨b, hb, hba⟩ := hfound
      obtain ⟨i, hi, rfl⟩ := List.getElem_of_mem hb
      have hi' : i < (newest key k l).length := h.length_eq ▸ hi
      have hpaired := h.get hi' hi
      have hself : (newest key k l)[i] = a :=
        List.inj_on_of_nodup_map hkeys (hwithin (List.getElem_mem hi')) ha
          ((hR _ _ hpaired).symm.trans hba)
      rw [latest_eq hkept (List.getElem_mem hi) hba, ← hself]
      exact hpaired
    · rw [latest_self fun b hb hba => hfound ⟨b, hb, hba⟩]
      exact hrefl a
  refine ⟨l.map (latest key l'), ?_, ?_⟩
  · rw [List.forall₂_map_right_iff, List.forall₂_same]
    exact hlatest
  · rw [newest_map fun a ha => hR _ _ (hlatest a ha)]
    refine List.ext_getElem (by rw [List.length_map, h.length_eq]) fun i hi hi' => ?_
    have hi'' : i < (newest key k l).length := h.length_eq ▸ hi'
    rw [List.getElem_map]
    exact latest_eq hkept (List.getElem_mem hi') (hR _ _ (h.get hi'' hi'))

theorem take_orderedInsert (a : α) (l : List α) (k : Nat) :
    ((l.take k).orderedInsert (Descends key) a).take k =
      (l.orderedInsert (Descends key) a).take k := by
  induction l generalizing k with
  | nil => simp
  | cons b l ih =>
    cases k with
    | zero => simp
    | succ k =>
      rw [List.take_succ_cons]
      by_cases hab : Descends key a b
      · rw [List.orderedInsert_cons_of_le _ _ hab, List.orderedInsert_cons_of_le _ _ hab]
        cases k with
        | zero => simp
        | succ k => simp [List.take_take]
      · rw [List.orderedInsert_of_not_le _ _ hab, List.orderedInsert_of_not_le _ _ hab]
        rw [List.take_succ_cons, List.take_succ_cons, ih]

theorem newestFirst_concat (hkeys : ((l ++ [a]).map key).Nodup) :
    newestFirst key (l ++ [a]) = (newestFirst key l).orderedInsert (Descends key) a := by
  refine eq_of_descends (nodup_newestFirst hkeys) (descends_newestFirst _)
    ((descends_newestFirst l).orderedInsert a _) ?_
  calc
    List.Perm (newestFirst key (l ++ [a])) (l ++ [a]) := newestFirst_perm key _
    List.Perm _ (a :: l) := List.perm_append_singleton a l
    List.Perm _ (a :: newestFirst key l) := (newestFirst_perm key l).symm.cons a
    List.Perm _ _ := (List.perm_orderedInsert _ a _).symm

theorem newest_concat (hkeys : ((l ++ [a]).map key).Nodup) :
    newest key k (newest key k l ++ [a]) = newest key k (l ++ [a]) := by
  have hsub : ((newest key k l ++ [a]).map key).Nodup := by
    have hl := (List.take_sublist k (newestFirst key l)).append_right [a]
    have hperm := ((newestFirst_perm key l).append_right [a]).map key
    exact (hperm.nodup_iff.mpr hkeys).sublist (hl.map key)
  have hsorted : newestFirst key (newest key k l) = newest key k l :=
    List.mergeSort_of_pairwise (by simpa using descends_newest l)
  calc newest key k (newest key k l ++ [a])
    _ = ((newest key k l).orderedInsert (Descends key) a).take k := by
        rw [newest, newestFirst_concat hsub, hsorted]
    _ = ((newestFirst key l).orderedInsert (Descends key) a).take k :=
        take_orderedInsert a _ k
    _ = newest key k (l ++ [a]) := by rw [newest, newestFirst_concat hkeys]

/-- The `k` greatest elements of a list, in strictly descending order. -/
structure Greatest (key : α → κ) (k : Nat) (l t : List α) : Prop where
  length : t.length = min k l.length
  within : t ⊆ l
  descends : t.Pairwise fun a b => key b < key a
  greatest : ∀ a ∈ t, ∀ b ∈ l, b ∉ t → key b < key a

theorem newest_greatest (hkeys : (l.map key).Nodup) : Greatest key k l (newest key k l) := by
  have hperm := newestFirst_perm key l
  have hsplit : newest key k l ++ (newestFirst key l).drop k = newestFirst key l :=
    List.take_append_drop k _
  have hstrict : (newestFirst key l).Pairwise fun a b => key b < key a := by
    have hne := List.pairwise_map.mp (nodup_newestFirst hkeys)
    exact (descends_newestFirst l).imp₂ (fun _ _ hle hne => lt_of_le_of_ne hle (Ne.symm hne)) hne
  rw [← hsplit, List.pairwise_append] at hstrict
  obtain ⟨hkept, -, hacross⟩ := hstrict
  have hgreatest : ∀ a ∈ newest key k l, ∀ b ∈ l, b ∉ newest key k l → key b < key a := by
    intro a ha b hb hout
    have hmem : b ∈ newest key k l ++ (newestFirst key l).drop k := by
      rw [hsplit]
      exact hperm.symm.subset hb
    rw [List.mem_append] at hmem
    exact hacross a ha b (hmem.resolve_left hout)
  exact
    { length := by rw [newest, List.length_take, hperm.length_eq]
      within := fun a ha => hperm.subset (List.mem_of_mem_take ha)
      descends := hkept
      greatest := hgreatest }

end
end CashuService

import Mathlib.Data.Set.Insert
import Mathlib.Logic.Function.Basic
set_option autoImplicit false

/-! Values that are moved to another place one after the other, and some of them back again. -/

namespace CashuService

/-- Every name has a place where its value is and one where it is moved to. -/
structure Places (N K : Type) where
  source : N → K
  target : N → K
  source_injective : Function.Injective source
  target_injective : Function.Injective target
  apart : ∀ m n, source m ≠ target n

section

variable {N K C : Type}

structure Places.Relocated (places : Places N K) (gone : Set N) (f g : K → Option C) : Prop where
  there : ∀ n ∈ gone, g (places.target n) = f (places.source n) ∧ g (places.source n) = none
  here : ∀ n ∉ gone, g (places.source n) = f (places.source n) ∧
    g (places.target n) = f (places.target n)
  elsewhere : ∀ k, (∀ n, places.source n ≠ k ∧ places.target n ≠ k) → g k = f k

namespace Places.Relocated

variable {places : Places N K} {gone : Set N} {n : N} {f g : K → Option C}

theorem refl (f : K → Option C) : places.Relocated ∅ f f where
  there n hn := absurd hn (Set.notMem_empty n)
  here _ _ := ⟨rfl, rfl⟩
  elsewhere _ _ := rfl

end Places.Relocated

variable [DecidableEq K]

def relocate (f : K → Option C) (source target : K) : K → Option C :=
  Function.update (Function.update f target (f source)) source none

variable {f g : K → Option C} {source target k : K}

@[simp] theorem relocate_source : relocate f source target source = none := by
  simp [relocate]

theorem relocate_target (h : source ≠ target) : relocate f source target target = f source := by
  simp [relocate, Function.update_of_ne h.symm]

theorem relocate_of_ne (hsource : k ≠ source) (htarget : k ≠ target) :
    relocate f source target k = f k := by
  simp [relocate, Function.update_of_ne hsource, Function.update_of_ne htarget]

namespace Places.Relocated

variable {places : Places N K} {gone : Set N} {n : N}

theorem forth (h : places.Relocated gone f g) (hn : n ∉ gone) :
    places.Relocated (insert n gone) f
      (relocate g (places.source n) (places.target n)) where
  there m hm := by
    by_cases hmn : m = n
    · rw [hmn, relocate_source, relocate_target (places.apart n n)]
      exact ⟨(h.here n hn).1, rfl⟩
    · rw [relocate_of_ne (places.apart n m).symm (places.target_injective.ne hmn),
        relocate_of_ne (places.source_injective.ne hmn) (places.apart m n)]
      exact h.there m (hm.resolve_left hmn)
  here m hm := by
    have hmn : m ≠ n := fun heq => hm (.inl heq)
    rw [relocate_of_ne (places.source_injective.ne hmn) (places.apart m n),
      relocate_of_ne (places.apart n m).symm (places.target_injective.ne hmn)]
    exact h.here m fun hgone => hm (.inr hgone)
  elsewhere k hk := by
    rw [relocate_of_ne (hk n).1.symm (hk n).2.symm]
    exact h.elsewhere k hk

theorem back (h : places.Relocated gone f g) (hn : n ∈ gone)
    (hfree : f (places.target n) = none) :
    places.Relocated (gone \ {n}) f (relocate g (places.target n) (places.source n)) where
  there m hm := by
    have hmn : m ≠ n := hm.2
    rw [relocate_of_ne (places.target_injective.ne hmn) (places.apart n m).symm,
      relocate_of_ne (places.apart m n) (places.source_injective.ne hmn)]
    exact h.there m hm.1
  here m hm := by
    by_cases hmn : m = n
    · rw [hmn, relocate_source, relocate_target (places.apart n n).symm, hfree]
      exact ⟨(h.there n hn).1, rfl⟩
    · rw [relocate_of_ne (places.apart m n) (places.source_injective.ne hmn),
        relocate_of_ne (places.target_injective.ne hmn) (places.apart n m).symm]
      exact h.here m fun hgone => hm ⟨hgone, hmn⟩
  elsewhere k hk := by
    rw [relocate_of_ne (hk n).2.symm (hk n).1.symm]
    exact h.elsewhere k hk

end Places.Relocated
end
end CashuService

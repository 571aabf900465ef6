import Mathlib.Algebra.Group.Nat.Defs
import Mathlib.Tactic.Ring
import RegexNfa.Fragment.Checked
import RegexNfa.Proofs.FragmentStates

namespace RegexNfa

namespace Regex

def leaves : Regex → Nat
  | .epsilon => 1
  | .symbol _ => 1
  | .concat r s => r.leaves + s.leaves
  | .union r s => r.leaves + s.leaves
  | .star r => r.leaves

def unions : Regex → Nat
  | .epsilon => 0
  | .symbol _ => 0
  | .concat r s => r.unions + s.unions
  | .union r s => r.unions + s.unions + 1
  | .star r => r.unions

def stars : Regex → Nat
  | .epsilon => 0
  | .symbol _ => 0
  | .concat r s => r.stars + s.stars
  | .union r s => r.stars + s.stars
  | .star r => r.stars + 1

end Regex

open Transition (stateLimit)

theorem sum?_eq_some_iff {m n k : Nat} : sum? m n = some k ↔ m + n < stateLimit ∧ m + n = k := by
  unfold sum?
  split <;> simp_all

theorem Transition.shifted?_eq_some_iff {k : Nat} {t u : Transition} : t.shifted? k = some u ↔
    (t.source + k < stateLimit ∧ t.target + k < stateLimit) ∧ t.shifted k = u := by
  unfold shifted?
  split <;> simp_all

namespace Fragment

variable {a b f : Fragment} {k : Nat}

theorem length_concat (a b : Fragment) :
    (concat a b).transitions.length = a.transitions.length + b.transitions.length := by
  simp [concat, shifted]

theorem length_union (a b : Fragment) :
    (union a b).transitions.length = a.transitions.length + b.transitions.length + 4 := by
  simp only [union, shifted, List.length_append, List.length_cons, List.length_map, List.length_nil]
  omega

theorem length_star (a : Fragment) :
    (star a).transitions.length = a.transitions.length + 4 := by
  simp [star, shifted]

def Movable (f : Fragment) (k : Nat) : Prop :=
  ∀ t ∈ f.transitions, t.source + k < stateLimit ∧ t.target + k < stateLimit

theorem mapM_shifted? (k : Nat) (table moved : List Transition) :
    table.mapM (·.shifted? k) = some moved ↔
      (∀ t ∈ table, t.source + k < stateLimit ∧ t.target + k < stateLimit) ∧
        table.map (·.shifted k) = moved := by
  induction table generalizing moved with
  | nil => simp
  | cons t table ih =>
    simp only [List.mapM_cons, Option.bind_eq_bind, Option.bind_eq_some_iff,
      Transition.shifted?_eq_some_iff, ih, Option.pure_def, Option.some.injEq,
      List.forall_mem_cons, List.map_cons]
    constructor
    · rintro ⟨_, ⟨ht, rfl⟩, _, ⟨hrest, rfl⟩, rfl⟩
      exact ⟨⟨ht, hrest⟩, rfl⟩
    · rintro ⟨⟨ht, hrest⟩, rfl⟩
      exact ⟨_, ⟨ht, rfl⟩, _, ⟨hrest, rfl⟩, rfl⟩

theorem shifted?_eq_some_iff {moved : List Transition} :
    f.shifted? k = some moved ↔ f.Movable k ∧ f.shifted k = moved :=
  mapM_shifted? k f.transitions moved

theorem stateCount?_eq_some_iff {n : Nat} :
    f.stateCount? = some n ↔ f.final + 1 < stateLimit ∧ f.final + 1 = n := sum?_eq_some_iff

theorem concat?_eq_some_iff : concat? a b = some f ↔
    a.transitions.length + b.transitions.length < stateLimit ∧ b.Movable a.final ∧
      a.final + b.final < stateLimit ∧ concat a b = f := by
  simp only [concat?, Option.bind_eq_bind, Option.bind_eq_some_iff, sum?_eq_some_iff,
    shifted?_eq_some_iff, Option.pure_def, Option.some.injEq]
  constructor
  · rintro ⟨_, ⟨hroom, -⟩, _, ⟨hcopy, rfl⟩, _, ⟨hfinal, rfl⟩, rfl⟩
    exact ⟨hroom, hcopy, hfinal, rfl⟩
  · rintro ⟨hroom, hcopy, hfinal, rfl⟩
    exact ⟨_, ⟨hroom, rfl⟩, _, ⟨hcopy, rfl⟩, _, ⟨hfinal, rfl⟩, rfl⟩

theorem union?_eq_some_iff : union? a b = some f ↔
    a.transitions.length + b.transitions.length + 4 < stateLimit ∧
      a.final + b.final + 3 < stateLimit ∧ a.Movable 1 ∧ b.Movable (a.final + 2) ∧
        union a b = f := by
  simp only [union?, Option.bind_eq_bind, Option.bind_eq_some_iff, sum?_eq_some_iff,
    stateCount?_eq_some_iff, shifted?_eq_some_iff, Option.pure_def, Option.some.injEq]
  constructor
  · rintro ⟨_, ⟨-, rfl⟩, _, ⟨-, rfl⟩, _, ⟨-, rfl⟩, _, ⟨hfinal, rfl⟩, _, ⟨-, rfl⟩, _, ⟨hroom, -⟩,
      _, ⟨hleft, rfl⟩, _, ⟨-, rfl⟩, _, ⟨hright, rfl⟩, rfl⟩
    exact ⟨hroom, by omega, hleft, hright, rfl⟩
  · rintro ⟨hroom, hfinal, hleft, hright, rfl⟩
    refine ⟨_, ⟨?_, rfl⟩, _, ⟨?_, rfl⟩, _, ⟨?_, rfl⟩, _, ⟨?_, rfl⟩, _, ⟨?_, rfl⟩, _, ⟨hroom, rfl⟩,
      _, ⟨hleft, rfl⟩, _, ⟨?_, rfl⟩, _, ⟨hright, rfl⟩, rfl⟩ <;> omega

theorem star?_eq_some_iff : star? a = some f ↔
    a.transitions.length + 4 < stateLimit ∧ a.final + 2 < stateLimit ∧ a.Movable 1 ∧
      star a = f := by
  simp only [star?, Option.bind_eq_bind, Option.bind_eq_some_iff, sum?_eq_some_iff,
    stateCount?_eq_some_iff, shifted?_eq_some_iff, Option.pure_def, Option.some.injEq]
  constructor
  · rintro ⟨_, ⟨-, rfl⟩, _, ⟨hfinal, rfl⟩, _, ⟨hroom, -⟩, _, ⟨hcopy, rfl⟩, rfl⟩
    exact ⟨hroom, hfinal, hcopy, rfl⟩
  · rintro ⟨hroom, hfinal, hcopy, rfl⟩
    exact ⟨_, ⟨Nat.lt_of_succ_lt hfinal, rfl⟩, _, ⟨hfinal, rfl⟩, _, ⟨hroom, rfl⟩, _, ⟨hcopy, rfl⟩, rfl⟩

theorem Sealed.movable (h : f.Sealed) (hk : f.final + k < stateLimit) : f.Movable k := by
  intro t ht
  have := h.source_lt t ht
  have := h.target_le t ht
  omega

theorem Connected.movable_iff (hs : f.Sealed) (h : f.Connected) :
    f.Movable k ↔ f.final + k < stateLimit := by
  refine ⟨fun hm => ?_, hs.movable⟩
  -- the final state occurs in the table, so none leaves the range before it
  obtain ⟨t, ht, he | he⟩ := (h.mentioned hs f.final).mpr (Nat.le_refl _)
  · have := (hm t ht).1
    omega
  · have := (hm t ht).2
    omega

/-- Far enough from the end of the range for every rule to be applied once more. -/
structure Small (f : Fragment) : Prop where
  sealed : f.Sealed
  final_lt : f.final < 2 ^ 60
  length_lt : f.transitions.length < 2 ^ 60

namespace Small

theorem movable (h : f.Small) (hk : k ≤ 2 ^ 60 + 2) : f.Movable k := by
  have := h.final_lt
  apply h.sealed.movable
  unfold stateLimit
  omega

theorem stateCount?_eq (h : f.Small) : f.stateCount? = some f.stateCount := by
  have := h.final_lt
  refine stateCount?_eq_some_iff.mpr ⟨?_, rfl⟩
  unfold stateLimit
  omega

theorem concat?_eq (ha : a.Small) (hb : b.Small) : concat? a b = some (concat a b) := by
  have := ha.final_lt
  have := hb.final_lt
  have := ha.length_lt
  have := hb.length_lt
  refine concat?_eq_some_iff.mpr ⟨?_, hb.movable (by omega), ?_, rfl⟩ <;> unfold stateLimit <;> omega

theorem union?_eq (ha : a.Small) (hb : b.Small) : union? a b = some (union a b) := by
  have := ha.final_lt
  have := hb.final_lt
  have := ha.length_lt
  have := hb.length_lt
  refine union?_eq_some_iff.mpr
    ⟨?_, ?_, ha.movable (by omega), hb.movable (by omega), rfl⟩ <;> unfold stateLimit <;> omega

theorem star?_eq (ha : a.Small) : star? a = some (star a) := by
  have := ha.final_lt
  have := ha.length_lt
  refine star?_eq_some_iff.mpr ⟨?_, ?_, ha.movable (by omega), rfl⟩ <;> unfold stateLimit <;> omega

end Small

end Fragment

namespace Regex

open Fragment

/-- A size that the rules add up, with `p` more for a union and `q` more for a star. -/
theorem size_toFragment (size : Fragment → Nat) {p q : Nat} (he : size .epsilon = 1)
    (hc : ∀ c, size (.literal c) = 1) (hconcat : ∀ a b, size (.concat a b) = size a + size b)
    (hunion : ∀ a b, size (.union a b) = size a + size b + p)
    (hstar : ∀ a, size (.star a) = size a + q) (r : Regex) :
    size r.toFragment = r.leaves + p * r.unions + q * r.stars := by
  induction r with
  | epsilon => exact he
  | symbol c => exact hc c
  | concat r s ihr ihs =>
    rw [toFragment, hconcat, ihr, ihs, leaves, unions, stars]
    ring
  | union r s ihr ihs =>
    rw [toFragment, hunion, ihr, ihs, leaves, unions, stars]
    ring
  | star r ih =>
    rw [toFragment, hstar, ih, leaves, unions, stars]
    ring

theorem final_toFragment (r : Regex) :
    r.toFragment.final = r.leaves + 3 * r.unions + 2 * r.stars :=
  size_toFragment (·.final) rfl (fun _ => rfl) final_concat final_union final_star r

theorem length_toFragment (r : Regex) :
    r.toFragment.transitions.length = r.leaves + 4 * r.unions + 4 * r.stars :=
  size_toFragment (·.transitions.length) rfl (fun _ => rfl) length_concat length_union length_star r

theorem final_le_length (r : Regex) : r.toFragment.final ≤ r.toFragment.transitions.length := by
  rw [final_toFragment, length_toFragment]
  omega

theorem toFragment_small {r : Regex} (h : r.toFragment.transitions.length < 2 ^ 60) :
    r.toFragment.Small :=
  ⟨r.toFragment_sealed, r.final_le_length.trans_lt h, h⟩

theorem eq_of_toFragment? {r : Regex} {f : Fragment} (h : r.toFragment? = some f) :
    r.toFragment = f := by
  induction r generalizing f with
  | epsilon => exact Option.some.inj h
  | symbol c => exact Option.some.inj h
  | concat r s ihr ihs =>
    simp only [toFragment?, Option.bind_eq_bind, Option.bind_eq_some_iff] at h
    obtain ⟨a, ha, b, hb, h⟩ := h
    rw [toFragment, ihr ha, ihs hb]
    exact (concat?_eq_some_iff.mp h).2.2.2
  | union r s ihr ihs =>
    simp only [toFragment?, Option.bind_eq_bind, Option.bind_eq_some_iff] at h
    obtain ⟨a, ha, b, hb, h⟩ := h
    rw [toFragment, ihr ha, ihs hb]
    exact (union?_eq_some_iff.mp h).2.2.2.2
  | star r ih =>
    simp only [toFragment?, Option.bind_eq_bind, Option.bind_eq_some_iff] at h
    obtain ⟨a, ha, h⟩ := h
    rw [toFragment, ih ha]
    exact (star?_eq_some_iff.mp h).2.2.2

theorem toFragment?_of_length_lt {r : Regex} (h : r.toFragment.transitions.length < 2 ^ 60) :
    r.toFragment? = some r.toFragment := by
  induction r with
  | epsilon => rfl
  | symbol c => rfl
  | concat r s ihr ihs =>
    rw [toFragment, length_concat] at h
    have hr : r.toFragment.transitions.length < 2 ^ 60 := by omega
    have hs : s.toFragment.transitions.length < 2 ^ 60 := by omega
    rw [toFragment?, ihr hr, ihs hs]
    exact (toFragment_small hr).concat?_eq (toFragment_small hs)
  | union r s ihr ihs =>
    rw [toFragment, length_union] at h
    have hr : r.toFragment.transitions.length < 2 ^ 60 := by omega
    have hs : s.toFragment.transitions.length < 2 ^ 60 := by omega
    rw [toFragment?, ihr hr, ihs hs]
    exact (toFragment_small hr).union?_eq (toFragment_small hs)
  | star r ih =>
    rw [toFragment, length_star] at h
    have hr : r.toFragment.transitions.length < 2 ^ 60 := by omega
    rw [toFragment?, ih hr]
    exact (toFragment_small hr).star?_eq

theorem shifted?_eq_none_iff (r : Regex) (k : Nat) :
    r.toFragment.shifted? k = none ↔ stateLimit ≤ r.toFragment.final + k := by
  rw [← Nat.not_lt, ← r.toFragment_connected.movable_iff r.toFragment_sealed,
    Option.eq_none_iff_forall_ne_some]
  constructor
  · intro h hm
    exact h _ (shifted?_eq_some_iff.mpr ⟨hm, rfl⟩)
  · intro h moved he
    exact h (shifted?_eq_some_iff.mp he).1

theorem composed_sizes :
    (∀ r : Regex, r.toFragment.final = r.leaves + 3 * r.unions + 2 * r.stars ∧
      r.toFragment.transitions.length = r.leaves + 4 * r.unions + 4 * r.stars ∧
      r.toFragment.final ≤ r.toFragment.transitions.length) ∧
    (∀ r s : Regex, r.toFragment.transitions.length < 2 ^ 60 →
      s.toFragment.transitions.length < 2 ^ 60 →
        r.toFragment.stateCount? = some r.toFragment.stateCount ∧
        concat? r.toFragment s.toFragment = some (.concat r.toFragment s.toFragment) ∧
        union? r.toFragment s.toFragment = some (.union r.toFragment s.toFragment) ∧
        star? r.toFragment = some (.star r.toFragment)) ∧
    (∀ r : Regex, (∀ f, r.toFragment? = some f → r.toFragment = f) ∧
      (r.toFragment.transitions.length < 2 ^ 60 → r.toFragment? = some r.toFragment)) ∧
    ∀ (r : Regex) (k : Nat),
      r.toFragment.shifted? k = none ↔ 2 ^ 64 ≤ r.toFragment.final + k := by
  refine ⟨?_, ?_, ?_, shifted?_eq_none_iff⟩
  · intro r
    exact ⟨r.final_toFragment, r.length_toFragment, r.final_le_length⟩
  · intro r s hr hs
    have hr := toFragment_small hr
    have hs := toFragment_small hs
    exact ⟨hr.stateCount?_eq, hr.concat?_eq hs, hr.union?_eq hs, hr.star?_eq⟩
  · intro r
    exact ⟨fun f => eq_of_toFragment?, toFragment?_of_length_lt⟩

theorem composed_sizes_starred :
    ∃ r : Regex, r = .star (.union (.symbol 'a') .epsilon) ∧ r.toFragment.final = 7 ∧
      r.toFragment.transitions.length = 10 ∧ r.toFragment? = some r.toFragment ∧
      union? r.toFragment r.toFragment = some (.union r.toFragment r.toFragment) ∧
      r.toFragment.shifted? (2 ^ 64 - 8) ≠ none ∧ r.toFragment.shifted? (2 ^ 64 - 7) = none := by
  obtain ⟨hsizes, hrules, hbuilt, hmove⟩ := composed_sizes
  have hshort : (star (union (symbol 'a') epsilon)).toFragment.transitions.length < 2 ^ 60 := by
    decide
  refine ⟨_, rfl, (hsizes _).1, (hsizes _).2.1, (hbuilt _).2 hshort, (hrules _ _ hshort hshort).2.2.1,
    ?_, (hmove _ _).mpr (by decide)⟩
  rw [Ne, hmove]
  decide

end Regex

end RegexNfa

import RegexNfa.Fragment
import Mathlib.Data.List.Nodup
import Mathlib.Data.List.Pairwise
import Mathlib.Data.List.Perm.Basic

namespace RegexNfa

namespace Transition

variable (k : Nat) (t : Transition)

@[simp] theorem source_shifted : (t.shifted k).source = t.source + k := rfl

@[simp] theorem target_shifted : (t.shifted k).target = t.target + k := rfl

@[simp] theorem label_shifted : (t.shifted k).label = t.label := rfl

@[simp] theorem isEpsilon_shifted : (t.shifted k).isEpsilon = t.isEpsilon := rfl

@[simp] theorem shifted_zero : t.shifted 0 = t := rfl

theorem shifted_injective (k : Nat) : Function.Injective (shifted k) := by
  rintro ⟨s, l, u⟩ ⟨s', l', u'⟩ h
  simpa [shifted] using h
@[simp] theorem source_epsilon (s u : Nat) : (epsilon s u).source = s := rfl

@[simp] theorem target_epsilon (s u : Nat) : (epsilon s u).target = u := rfl

@[simp] theorem label_epsilon (s u : Nat) : (epsilon s u).label = .epsilon := rfl

@[simp] theorem isEpsilon_epsilon (s u : Nat) : (epsilon s u).isEpsilon = true := rfl

end Transition

namespace Fragment

theorem mem_shifted {f : Fragment} {k : Nat} {t : Transition} :
    t ∈ f.shifted k ↔ ∃ u ∈ f.transitions, u.shifted k = t := by
  simp [shifted]

theorem le_source_of_mem_shifted {f : Fragment} {k : Nat} {t : Transition} (h : t ∈ f.shifted k) :
    k ≤ t.source := by
  obtain ⟨u, -, rfl⟩ := mem_shifted.mp h
  exact Nat.le_add_left k u.source

theorem mem_concat {a b : Fragment} {t : Transition} :
    t ∈ (concat a b).transitions ↔ t ∈ a.transitions ∨ t ∈ b.shifted a.final := by
  simp [concat]

theorem mem_union {a b : Fragment} {t : Transition} :
    t ∈ (union a b).transitions ↔
      t = .epsilon 0 1 ∨ t ∈ a.shifted 1 ∨ t = .epsilon (a.final + 1) (a.final + b.final + 3) ∨
        t = .epsilon 0 (a.final + 2) ∨ t ∈ b.shifted (a.final + 2) ∨
          t = .epsilon (a.final + b.final + 2) (a.final + b.final + 3) := by
  have h : a.final + 1 + (b.final + 1) = a.final + b.final + 2 := by omega
  simp [union, stateCount, h]

theorem mem_star {a : Fragment} {t : Transition} :
    t ∈ (star a).transitions ↔
      t = .epsilon 0 1 ∨ t ∈ a.shifted 1 ∨ t = .epsilon (a.final + 1) (a.final + 2) ∨
        t = .epsilon (a.final + 1) 1 ∨ t = .epsilon 0 (a.final + 2) := by
  simp [star, stateCount]

theorem final_concat (a b : Fragment) : (concat a b).final = a.final + b.final := rfl

theorem final_union (a b : Fragment) : (union a b).final = a.final + b.final + 3 := by
  simp only [union, stateCount]
  omega

theorem final_star (a : Fragment) : (star a).final = a.final + 2 := rfl

def Ends (f : Fragment) : Prop := ∀ t ∈ f.transitions, t.source < f.final

theorem Ends.source_shifted_lt {f : Fragment} (h : f.Ends) {k : Nat} {t : Transition}
    (ht : t ∈ f.shifted k) : t.source < k + f.final := by
  obtain ⟨u, hu, rfl⟩ := mem_shifted.mp ht
  have := h u hu
  rw [Transition.source_shifted]
  omega

theorem ends_literal (c : Char) : (literal c).Ends := by
  simp [Ends, literal, Transition.symbol]

theorem ends_epsilon : epsilon.Ends := by
  simp [Ends, epsilon]

theorem Ends.concat {a b : Fragment} (ha : a.Ends) (hb : b.Ends) : (concat a b).Ends := by
  intro t ht
  rw [final_concat]
  obtain ht | ht := mem_concat.mp ht
  · have := ha t ht
    omega
  · exact hb.source_shifted_lt ht

theorem Ends.union {a b : Fragment} (ha : a.Ends) (hb : b.Ends) : (union a b).Ends := by
  intro t ht
  rw [final_union]
  rcases mem_union.mp ht with rfl | ht | rfl | rfl | ht | rfl
  · simp
  · have := ha.source_shifted_lt ht
    omega
  · simp only [Transition.source_epsilon]
    omega
  · simp
  · have := hb.source_shifted_lt ht
    omega
  · simp

theorem Ends.star {a : Fragment} (ha : a.Ends) : (star a).Ends := by
  intro t ht
  rw [final_star]
  rcases mem_star.mp ht with rfl | ht | rfl | rfl | rfl
  · simp
  · have := ha.source_shifted_lt ht
    omega
  all_goals simp

structure Sealed (f : Fragment) : Prop where
  source_lt : ∀ t ∈ f.transitions, t.source < f.final
  target_le : ∀ t ∈ f.transitions, t.target ≤ f.final
  target_pos : ∀ t ∈ f.transitions, 0 < t.target
  final_pos : 0 < f.final

theorem Sealed.ends {f : Fragment} (h : f.Sealed) : f.Ends := h.source_lt

theorem sealed_literal (c : Char) : (literal c).Sealed := by
  constructor <;> simp [literal, Transition.symbol]

theorem sealed_epsilon : epsilon.Sealed := by
  constructor <;> simp [epsilon]

theorem Sealed.concat {a b : Fragment} (ha : a.Sealed) (hb : b.Sealed) : (concat a b).Sealed := by
  refine ⟨ha.ends.concat hb.ends, ?_, ?_, Nat.add_pos_right _ hb.final_pos⟩ <;> intro t ht <;>
    rw [mem_concat, mem_shifted] at ht <;> rcases ht with ht | ⟨u, hu, rfl⟩
  · have := ha.target_le t ht
    simp only [final_concat]
    omega
  · have := hb.target_le u hu
    simp only [final_concat, Transition.target_shifted]
    omega
  · exact ha.target_pos t ht
  · exact Nat.add_pos_left (hb.target_pos u hu) _

theorem Sealed.union {a b : Fragment} (ha : a.Sealed) (hb : b.Sealed) : (union a b).Sealed := by
  refine ⟨ha.ends.union hb.ends, ?_, ?_, by simp [final_union]⟩ <;> intro t ht <;>
    rw [mem_union, mem_shifted, mem_shifted] at ht <;>
    rcases ht with rfl | ⟨u, hu, rfl⟩ | rfl | rfl | ⟨u, hu, rfl⟩ | rfl <;>
    simp only [final_union, Transition.target_shifted, Transition.target_epsilon]
  all_goals try omega
  · have := ha.target_le u hu
    omega
  · have := hb.target_le u hu
    omega

theorem Sealed.star {a : Fragment} (ha : a.Sealed) : (star a).Sealed := by
  refine ⟨ha.ends.star, ?_, ?_, by simp [final_star]⟩ <;> intro t ht <;>
    rw [mem_star, mem_shifted] at ht <;>
    rcases ht with rfl | ⟨u, hu, rfl⟩ | rfl | rfl | rfl <;>
    simp only [final_star, Transition.target_shifted, Transition.target_epsilon]
  all_goals try omega
  · have := ha.target_le u hu
    omega

/-- Of two transitions out of one state, at different places of the table, none has a symbol. -/
def Unmixed (table : List Transition) : Prop :=
  table.Pairwise fun t u => t.source = u.source → t.isEpsilon = true ∧ u.isEpsilon = true

theorem Unmixed.eq {table : List Transition} (h : Unmixed table) {t u : Transition}
    (ht : t ∈ table) (hu : u ∈ table) (hs : t.source = u.source) (he : t.isEpsilon = false) :
    t = u := by
  by_contra hne
  have hsymm : Std.Symm fun t u : Transition =>
      t.source = u.source → t.isEpsilon = true ∧ u.isEpsilon = true :=
    ⟨fun t u h hs => (h hs.symm).symm⟩
  have hboth := List.Pairwise.forall h ht hu hne hs
  rw [he] at hboth
  cases hboth.1

theorem unmixed_shifted {f : Fragment} (h : Unmixed f.transitions) (k : Nat) :
    Unmixed (f.shifted k) := by
  unfold Unmixed shifted
  rw [List.pairwise_map]
  exact h.imp fun h he => h (Nat.add_right_cancel he)

theorem source_shifted_bounds {f : Fragment} (h : f.Sealed) {k : Nat} {t : Transition}
    (ht : t ∈ f.shifted k) : k ≤ t.source ∧ t.source < k + f.final :=
  ⟨le_source_of_mem_shifted ht, h.ends.source_shifted_lt ht⟩

theorem unmixed_append {l m : List Transition} (hl : Unmixed l) (hm : Unmixed m)
    (h : ∀ t ∈ l, ∀ u ∈ m, t.source = u.source → t.isEpsilon = true ∧ u.isEpsilon = true) :
    Unmixed (l ++ m) := List.pairwise_append.mpr ⟨hl, hm, h⟩

theorem unmixed_cons {s u : Nat} {l : List Transition} (hl : Unmixed l)
    (h : ∀ t ∈ l, t.source = s → t.isEpsilon = true) : Unmixed (.epsilon s u :: l) :=
  List.pairwise_cons.mpr ⟨fun t ht he => ⟨rfl, h t ht he.symm⟩, hl⟩

theorem Unmixed.concat {a b : Fragment} (hs : a.Sealed) (hs' : b.Sealed)
    (ha : Unmixed a.transitions) (hb : Unmixed b.transitions) :
    Unmixed (concat a b).transitions := by
  apply unmixed_append ha (unmixed_shifted hb _)
  intro t ht u hu he
  have := hs.source_lt t ht
  have := source_shifted_bounds hs' hu
  omega

theorem Unmixed.union {a b : Fragment} (hs : a.Sealed) (hs' : b.Sealed)
    (ha : Unmixed a.transitions) (hb : Unmixed b.transitions) :
    Unmixed (union a b).transitions := by
  have hl : Unmixed (.epsilon 0 1 :: a.shifted 1) := by
    apply unmixed_cons (unmixed_shifted ha 1)
    intro t ht he
    have := source_shifted_bounds hs ht
    omega
  have hr : Unmixed (.epsilon a.stateCount (a.stateCount + b.stateCount + 1) ::
      .epsilon 0 (a.stateCount + 1) :: b.shifted (a.stateCount + 1)) := by
    apply unmixed_cons
    · apply unmixed_cons (unmixed_shifted hb _)
      intro t ht he
      have := source_shifted_bounds hs' ht
      omega
    · intro t ht he
      obtain rfl | ht := List.mem_cons.mp ht
      · rfl
      · have := source_shifted_bounds hs' ht
        omega
  apply unmixed_append (unmixed_append hl hr _) (List.pairwise_singleton _ _)
  · intro t ht u hu he
    obtain rfl := List.mem_singleton.mp hu
    simp only [List.mem_append, List.mem_cons, Transition.source_epsilon] at ht he
    rcases ht with (rfl | ht) | rfl | rfl | ht
    · exact ⟨rfl, rfl⟩
    · have := source_shifted_bounds hs ht
      simp only [stateCount] at he
      omega
    · exact ⟨rfl, rfl⟩
    · exact ⟨rfl, rfl⟩
    · have := source_shifted_bounds hs' ht
      simp only [stateCount] at he this
      omega
  · intro t ht u hu he
    simp only [List.mem_cons] at ht hu
    rcases ht with rfl | ht <;> rcases hu with rfl | rfl | hu
    · exact ⟨rfl, rfl⟩
    · exact ⟨rfl, rfl⟩
    · have := source_shifted_bounds hs' hu
      simp only [Transition.source_epsilon] at he
      omega
    all_goals have hb := source_shifted_bounds hs ht
    · simp only [Transition.source_epsilon, stateCount] at he
      omega
    · simp only [Transition.source_epsilon] at he
      omega
    · have := source_shifted_bounds hs' hu
      simp only [stateCount] at this
      omega

theorem Unmixed.star {a : Fragment} (hs : a.Sealed) (ha : Unmixed a.transitions) :
    Unmixed (star a).transitions := by
  have hl : Unmixed (.epsilon 0 1 :: a.shifted 1) := by
    apply unmixed_cons (unmixed_shifted ha 1)
    intro t ht he
    have := source_shifted_bounds hs ht
    omega
  have hr : Unmixed [.epsilon a.stateCount (a.stateCount + 1), .epsilon a.stateCount 1,
      .epsilon 0 (a.stateCount + 1)] := by
    refine unmixed_cons (unmixed_cons (unmixed_cons List.Pairwise.nil ?_) ?_) ?_ <;> simp
  apply unmixed_append hl hr
  intro t ht u hu he
  have hu' : u.isEpsilon = true ∧ (u.source = 0 ∨ u.source = a.final + 1) := by
    simp only [List.mem_cons, List.not_mem_nil, or_false] at hu
    rcases hu with rfl | rfl | rfl <;> simp [stateCount]
  refine ⟨?_, hu'.1⟩
  obtain rfl | ht := List.mem_cons.mp ht
  · rfl
  · have := source_shifted_bounds hs ht
    omega

theorem nodup_shifted {f : Fragment} (h : f.transitions.Nodup) (k : Nat) : (f.shifted k).Nodup :=
  h.map (Transition.shifted_injective k)

theorem nodup_concat {a b : Fragment} (hs : a.Sealed) (hs' : b.Sealed)
    (ha : a.transitions.Nodup) (hb : b.transitions.Nodup) : (concat a b).transitions.Nodup := by
  refine ha.append (nodup_shifted hb _) ?_
  intro t ht hu
  have := hs.source_lt t ht
  have := source_shifted_bounds hs' hu
  omega

theorem nodup_union {a b : Fragment} (hs : a.Sealed) (hs' : b.Sealed)
    (ha : a.transitions.Nodup) (hb : b.transitions.Nodup) : (union a b).transitions.Nodup := by
  -- the copies first, so that the four new transitions stand together
  have hperm : (union a b).transitions.Perm (a.shifted 1 ++ (b.shifted (a.final + 2) ++
      [.epsilon 0 1, .epsilon (a.final + 1) (a.final + b.final + 3), .epsilon 0 (a.final + 2),
        .epsilon (a.final + b.final + 2) (a.final + b.final + 3)])) := by
    have h : a.final + 1 + (b.final + 1) = a.final + b.final + 2 := by omega
    unfold union
    simp only [stateCount, h]
    grind
  refine hperm.nodup_iff.mpr ((nodup_shifted ha 1).append ((nodup_shifted hb _).append ?_ ?_) ?_)
  · simp [Transition.epsilon]
    omega
  · intro t ht hu
    have hbound := source_shifted_bounds hs' ht
    simp only [List.mem_cons, List.not_mem_nil, or_false] at hu
    rcases hu with rfl | rfl | rfl | rfl <;> simp only [Transition.source_epsilon] at hbound <;> omega
  · intro t ht hu
    have hbound := source_shifted_bounds hs ht
    obtain hu | hu := List.mem_append.mp hu
    · have := source_shifted_bounds hs' hu
      omega
    · simp only [List.mem_cons, List.not_mem_nil, or_false] at hu
      rcases hu with rfl | rfl | rfl | rfl <;> simp only [Transition.source_epsilon] at hbound <;>
        omega

theorem nodup_star {a : Fragment} (hs : a.Sealed) (ha : a.transitions.Nodup) :
    (star a).transitions.Nodup := by
  have hperm : (star a).transitions.Perm (a.shifted 1 ++ [.epsilon 0 1,
      .epsilon (a.final + 1) (a.final + 2), .epsilon (a.final + 1) 1, .epsilon 0 (a.final + 2)]) :=
    List.perm_middle.symm
  refine hperm.nodup_iff.mpr ((nodup_shifted ha 1).append ?_ ?_)
  · simp [Transition.epsilon]
  · intro t ht hu
    have hbound := source_shifted_bounds hs ht
    simp only [List.mem_cons, List.not_mem_nil, or_false] at hu
    rcases hu with rfl | rfl | rfl | rfl <;> simp only [Transition.source_epsilon] at hbound <;> omega

def Stepwise (table : List Transition) : Prop :=
  ∀ t ∈ table, t.isEpsilon = false → t.target = t.source + 1

theorem stepwise_nil : Stepwise [] := fun _ ht => nomatch ht

theorem stepwise_epsilon_cons {s u : Nat} {table : List Transition} :
    Stepwise (.epsilon s u :: table) ↔ Stepwise table := by
  simp [Stepwise]

theorem stepwise_append {l m : List Transition} :
    Stepwise (l ++ m) ↔ Stepwise l ∧ Stepwise m := List.forall_mem_append

theorem Stepwise.shifted {f : Fragment} (h : Stepwise f.transitions) (k : Nat) :
    Stepwise (f.shifted k) := by
  intro t ht he
  obtain ⟨u, hu, rfl⟩ := mem_shifted.mp ht
  have := h u hu he
  simp only [Transition.target_shifted, Transition.source_shifted]
  omega

end Fragment

namespace Regex

theorem toFragment_sealed (r : Regex) : r.toFragment.Sealed := by
  induction r with
  | epsilon => exact Fragment.sealed_epsilon
  | symbol c => exact Fragment.sealed_literal c
  | concat r s ihr ihs => exact ihr.concat ihs
  | union r s ihr ihs => exact ihr.union ihs
  | star r ih => exact ih.star

theorem toFragment_stepwise (r : Regex) : Fragment.Stepwise r.toFragment.transitions := by
  induction r with
  | epsilon => exact Fragment.stepwise_epsilon_cons.mpr Fragment.stepwise_nil
  | symbol c =>
    intro t ht _
    obtain rfl := List.mem_singleton.mp ht
    rfl
  | concat r s ihr ihs => exact Fragment.stepwise_append.mpr ⟨ihr, ihs.shifted _⟩
  | union r s ihr ihs =>
    simp only [toFragment, Fragment.union, Fragment.stepwise_append, Fragment.stepwise_epsilon_cons]
    exact ⟨⟨ihr.shifted _, ihs.shifted _⟩, Fragment.stepwise_nil⟩
  | star r ih =>
    simp only [toFragment, Fragment.star, Fragment.stepwise_append, Fragment.stepwise_epsilon_cons]
    exact ⟨ih.shifted _, Fragment.stepwise_nil⟩

theorem toFragment_unmixed (r : Regex) : Fragment.Unmixed r.toFragment.transitions := by
  induction r with
  | epsilon => exact List.pairwise_singleton _ _
  | symbol c => exact List.pairwise_singleton _ _
  | concat r s ihr ihs => exact .concat r.toFragment_sealed s.toFragment_sealed ihr ihs
  | union r s ihr ihs => exact .union r.toFragment_sealed s.toFragment_sealed ihr ihs
  | star r ih => exact .star r.toFragment_sealed ih

theorem toFragment_nodup (r : Regex) : r.toFragment.transitions.Nodup := by
  induction r with
  | epsilon => exact List.nodup_singleton _
  | symbol c => exact List.nodup_singleton _
  | concat r s ihr ihs =>
    exact Fragment.nodup_concat r.toFragment_sealed s.toFragment_sealed ihr ihs
  | union r s ihr ihs =>
    exact Fragment.nodup_union r.toFragment_sealed s.toFragment_sealed ihr ihs
  | star r ih => exact Fragment.nodup_star r.toFragment_sealed ih

end Regex

end RegexNfa

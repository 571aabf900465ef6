import RegexNfa.Proofs.Compilation
import RegexNfa.Proofs.FragmentDecoding
import RegexNfa.Regex.Factors

namespace RegexNfa

open Fragment

namespace Factor

mutual

def toFragment : Factor → Fragment
  | .epsilon => .epsilon
  | .symbol c => .literal c
  | .union left right => .union (chain left) (chain right)
  | .star body => .star (chain body)

def chain : List Factor → Fragment
  | [] => .point
  | f :: rest => .concat f.toFragment (chain rest)

end

theorem chain_append (l m : List Factor) : chain (l ++ m) = .concat (chain l) (chain m) := by
  induction l with
  | nil => rw [List.nil_append, chain, point_concat]
  | cons f l ih => rw [List.cons_append, chain, ih, chain, concat_assoc]

theorem chain_singleton (f : Factor) : chain [f] = f.toFragment := by
  rw [chain, chain, concat_point]

mutual

theorem ends_toFragment : (f : Factor) → f.toFragment.Ends
  | .epsilon => by rw [toFragment]; exact ends_epsilon
  | .symbol c => by rw [toFragment]; exact ends_literal c
  | .union left right => by rw [toFragment]; exact (ends_chain left).union (ends_chain right)
  | .star body => by rw [toFragment]; exact (ends_chain body).star

theorem ends_chain : (l : List Factor) → (chain l).Ends
  | [] => by rw [chain]; exact ends_point
  | f :: rest => by rw [chain]; exact (ends_toFragment f).concat (ends_chain rest)

end

theorem final_pos (f : Factor) : 0 < f.toFragment.final := by
  cases f <;> simp [toFragment, Fragment.epsilon, literal, final_union, final_star]

inductive Alike : Factor → Factor → Prop
  | epsilon : Alike .epsilon .epsilon
  | symbol (c : Char) : Alike (.symbol c) (.symbol c)
  | union {l m l' m' : List Factor} : (chain l).final = (chain l').final →
      (chain m).final = (chain m').final → Alike (.union l m) (.union l' m')
  | star {l l' : List Factor} : (chain l).final = (chain l').final → Alike (.star l) (.star l')

theorem Alike.final_eq {f g : Factor} (h : Alike f g) : f.toFragment.final = g.toFragment.final := by
  cases h with
  | epsilon | symbol => rfl
  | union hl hm => simp [toFragment, final_union, hl, hm]
  | star hl => simp [toFragment, final_star, hl]

theorem exits_start (f : Factor) :
    f.toFragment.exits 0 = match f with
      | .epsilon => [.epsilon 0 1]
      | .symbol c => [.symbol 0 c 1]
      | .union l _ => [.epsilon 0 1, .epsilon 0 ((chain l).final + 2)]
      | .star l => [.epsilon 0 1, .epsilon 0 ((chain l).final + 2)] := by
  cases f with
  | epsilon | symbol => simp only [toFragment]; rfl
  | union l m => rw [toFragment, exits_union_start]
  | star l => rw [toFragment, exits_star_start]

/-- What leaves the start, and what leaves the last state of the first part of a union or a star,
tells which factor comes first. -/
theorem alike_of_concat_eq {f g : Factor} {l m : List Factor}
    (h : concat f.toFragment (chain l) = concat g.toFragment (chain m)) : Alike f g := by
  have hstart := exits_eq h (final_pos f) (final_pos g)
  rw [exits_start, exits_start] at hstart
  cases f <;> cases g <;> simp [Transition.epsilon, Transition.symbol] at hstart
  case epsilon.epsilon => exact .epsilon
  case symbol.symbol c _ => exact hstart ▸ .symbol c
  case union.union l₁ m₁ l₂ m₂ =>
    rw [toFragment, toFragment] at h
    exact .union hstart (right_final_eq (ends_chain l₁) (ends_chain l₂) h hstart)
  case union.star l₁ m₁ l₂ =>
    rw [toFragment, toFragment] at h
    exact absurd h (concat_union_ne_concat_star (ends_chain l₁) (ends_chain l₂) hstart)
  case star.union l₁ l₂ m₂ =>
    rw [toFragment, toFragment] at h
    exact absurd h.symm
      (concat_union_ne_concat_star (ends_chain l₂) (ends_chain l₁) hstart.symm)
  case star.star => exact .star hstart

theorem final_chain_pos (f : Factor) (l : List Factor) : 0 < (chain (f :: l)).final := by
  rw [chain, final_concat]
  exact Nat.add_pos_left (final_pos f) _

theorem final_chain_nil : (chain []).final = 0 := by
  rw [chain, point]

theorem eq_of_chain_eq : (l m : List Factor) → chain l = chain m → l = m
  | [], [], _ => rfl
  | [], g :: m, h => by
    have hpos := final_chain_pos g m
    rw [← h, final_chain_nil] at hpos
    exact absurd hpos (Nat.lt_irrefl 0)
  | f :: l, [], h => by
    have hpos := final_chain_pos f l
    rw [h, final_chain_nil] at hpos
    exact absurd hpos (Nat.lt_irrefl 0)
  | f :: l, g :: m, h => by
    rw [chain, chain] at h
    have halike := alike_of_concat_eq h
    obtain ⟨hfirst, hrest⟩ :=
      concat_cancel (ends_toFragment f) (ends_toFragment g) halike.final_eq h
    rw [eq_of_chain_eq l m hrest]
    cases halike with
    | epsilon | symbol => rfl
    | @union l₁ m₁ l₂ m₂ hl _ =>
      rw [toFragment, toFragment] at hfirst
      obtain ⟨hleft, hright⟩ := union_injective (ends_chain l₁) (ends_chain l₂) hl hfirst
      rw [eq_of_chain_eq l₁ l₂ hleft, eq_of_chain_eq m₁ m₂ hright]
    | @star l₁ l₂ _ =>
      rw [toFragment, toFragment] at hfirst
      rw [eq_of_chain_eq l₁ l₂ (star_injective hfirst)]

end Factor

namespace Regex

theorem toFragment_eq_chain (r : Regex) : r.toFragment = Factor.chain r.factors := by
  induction r with
  | epsilon | symbol => rw [toFragment, factors, Factor.chain_singleton, Factor.toFragment]
  | concat r s ihr ihs => rw [toFragment, factors, Factor.chain_append, ihr, ihs]
  | union r s ihr ihs =>
    rw [toFragment, factors, Factor.chain_singleton, Factor.toFragment, ihr, ihs]
  | star r ih => rw [toFragment, factors, Factor.chain_singleton, Factor.toFragment, ih]

theorem toFragment_eq_iff (r s : Regex) : r.toFragment = s.toFragment ↔ r.factors = s.factors := by
  rw [toFragment_eq_chain, toFragment_eq_chain]
  exact ⟨Factor.eq_of_chain_eq _ _, congrArg _⟩

theorem ofFragment_eq_iff (r s : Regex) :
    Automaton.ofFragment r.toFragment = .ofFragment s.toFragment ↔ r.factors = s.factors := by
  rw [← toFragment_eq_iff, Automaton.eq_iff]
  constructor
  · rintro ⟨ht, hf⟩
    exact congrArg₂ Fragment.mk ht hf
  · intro h
    rw [h]
    exact ⟨rfl, rfl⟩

theorem epsilon_notMem_factors {r : Regex} (h : r.EpsilonFree) : .epsilon ∉ r.factors := by
  induction r with
  | epsilon => exact h.elim
  | symbol | union | star => simp [factors]
  | concat r s ihr ihs =>
    rw [factors, List.mem_append, not_or]
    exact ⟨ihr h.1, ihs h.2⟩

end Regex

namespace Expression

theorem Parses.parenthesized {s : List Char} {r : Regex} (h : Parses s r) :
    Parses ('(' :: (s ++ [')'])) r := by
  cases h with
  | derived h => exact .derived (.sequence (.item (.atom (.group h))))
  | @empty depth _ =>
    have he : '(' :: (emptyGroups depth ++ [')']) = emptyGroups (depth + 1) := by
      rw [emptyGroups, emptyGroups, List.replicate_succ, List.replicate_succ', List.append_assoc,
        List.cons_append]
    rw [he]
    exact .empty (Nat.succ_pos depth)

theorem Parses.factors_eq_epsilon_iff {s : List Char} {r : Regex} (h : Parses s r) :
    r.factors = [.epsilon] ↔ ∃ depth, 1 ≤ depth ∧ s = emptyGroups depth := by
  constructor
  · intro hf
    cases h with
    | derived h =>
      have hfree := Regex.epsilon_notMem_factors (Regex.epsilonFree_of_derives h)
      simp [hf] at hfree
    | empty hd => exact ⟨_, hd, rfl⟩
  · rintro ⟨depth, hd, rfl⟩
    rw [h.unique (.empty hd), Regex.factors]

theorem Derives.juxtaposed {d : Dialect} {s t : List Char} {q r : Regex}
    (hs : Derives d .sequence s q) (ht : Derives d .sequence t r) :
    ∃ x, Derives d .sequence (s ++ t) x ∧ x.factors = q.factors ++ r.factors := by
  generalize hl : Level.sequence = level at ht
  induction ht with
  | item ht => exact ⟨_, .concat hs ht, rfl⟩
  | @concat t u _ v _ hu ih _ =>
    obtain ⟨x, hx, hf⟩ := ih hl
    refine ⟨.concat x v, ?_, ?_⟩
    · rw [← List.append_assoc]
      exact .concat hx hu
    · rw [Regex.factors, Regex.factors, hf, List.append_assoc]
  | _ => cases hl

theorem parses_regrouped {e f g : List Char} {q r s : Regex} (he : Derives .strict .sequence e q)
    (hf : Derives .strict .sequence f r) (hg : Derives .strict .sequence g s) :
    ∃ x y, Parses (e ++ '(' :: (f ++ g ++ [')'])) x ∧ Parses ('(' :: (e ++ f ++ [')']) ++ g) y ∧
      x.factors = y.factors := by
  obtain ⟨v, hv, hright⟩ := hf.juxtaposed hg
  obtain ⟨u, hu, hleft⟩ := he.juxtaposed hf
  obtain ⟨y, hy, hgrouped⟩ := Derives.juxtaposed (.item (.atom (.group (.sequence hu)))) hg
  refine ⟨.concat q v, y, .derived (.sequence (.concat he (.atom (.group (.sequence hv))))),
    .derived (.sequence hy), ?_⟩
  rw [Regex.factors, hright, hgrouped, hleft, List.append_assoc]

theorem compile_of_parses {e : String} {r : Regex} (h : Parses e.toList r) :
    compile e = .ok (.ofFragment r.toFragment) := (compile_eq_ok_iff e _).mpr ⟨r, h, rfl⟩

theorem compile_eq_iff_factors_eq :
    (∀ (e f : String) (a b : Automaton), compile e = .ok a → compile f = .ok b →
      ∃ r s, (∀ q, Parses e.toList q ↔ q = r) ∧ (∀ q, Parses f.toList q ↔ q = s) ∧
        (a = b ↔ r.factors = s.factors) ∧
        (r.factors = [.epsilon] ↔ ∃ depth, 1 ≤ depth ∧ e.toList = emptyGroups depth)) ∧
    (∀ (e : String) (a : Automaton), compile e = .ok a → compile ("(" ++ e ++ ")") = .ok a) ∧
    ∀ (e f g : String) (q r s : Regex), Derives .strict .sequence e.toList q →
      Derives .strict .sequence f.toList r → Derives .strict .sequence g.toList s →
      ∃ a, compile (e ++ "(" ++ f ++ g ++ ")") = .ok a ∧
        compile ("(" ++ e ++ f ++ ")" ++ g) = .ok a := by
  refine ⟨?_, ?_, ?_⟩
  · intro e f a b ha hb
    obtain ⟨r, hr, rfl⟩ := (compile_eq_ok_iff e a).mp ha
    obtain ⟨s, hs, rfl⟩ := (compile_eq_ok_iff f b).mp hb
    exact ⟨r, s, hr.iff_eq, hs.iff_eq, Regex.ofFragment_eq_iff r s,
      hr.factors_eq_epsilon_iff⟩
  · intro e a ha
    obtain ⟨r, hr, rfl⟩ := (compile_eq_ok_iff e a).mp ha
    apply compile_of_parses
    simpa using hr.parenthesized
  · intro e f g q r s he hf hg
    obtain ⟨x, y, hright, hleft, hfactors⟩ := parses_regrouped he hf hg
    refine ⟨.ofFragment x.toFragment, ?_, ?_⟩
    · apply compile_of_parses
      simpa using hright
    · rw [(Regex.ofFragment_eq_iff _ _).mpr hfactors]
      apply compile_of_parses
      simpa using hleft

theorem compile_eq_iff_factors_eq_starred :
    ∃ a, compile "a(b*(c|d))" = .ok a ∧ compile "((a)b*)(c|d)" = .ok a ∧
      compile "(a(b*(c|d)))" = .ok a ∧
      ∃ r s, (∀ q, Parses "a(b*(c|d))".toList q ↔ q = r) ∧
        (∀ q, Parses "((a)b*)(c|d)".toList q ↔ q = s) ∧
        r.factors = s.factors ∧ r.factors ≠ [.epsilon] := by
  have hright : compile "a(b*(c|d))" = .ok (.ofFragment (.concat (.literal 'a')
      (.concat (.star (.literal 'b')) (.union (.literal 'c') (.literal 'd'))))) := by
    rfl
  have hleft : compile "((a)b*)(c|d)" = .ok (.ofFragment (.concat (.literal 'a')
      (.concat (.star (.literal 'b')) (.union (.literal 'c') (.literal 'd'))))) := by
    rfl
  obtain ⟨r, s, hr, hs, heq, hgroups⟩ := compile_eq_iff_factors_eq.1 _ _ _ _ hright hleft
  refine ⟨_, hright, hleft, compile_eq_iff_factors_eq.2.1 _ _ hright, r, s, hr, hs, heq.mp rfl, ?_⟩
  intro hepsilon
  obtain ⟨depth, hd, he⟩ := hgroups.mp hepsilon
  cases depth with
  | zero => simp at hd
  | succ depth => simp [emptyGroups, List.replicate_succ] at he

end Expression

end RegexNfa

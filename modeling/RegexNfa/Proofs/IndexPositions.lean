import Mathlib.Algebra.Group.Nat.Defs
import Mathlib.Data.List.Basic
import Mathlib.Order.Bounds.Basic
import RegexNfa.Automaton.Layout
import RegexNfa.Proofs.Outgoing

namespace RegexNfa

def mentioned (table : List Transition) (final : Nat) : Set Nat :=
  {s | s = final ∨ ∃ t ∈ table, s = t.source ∨ s = t.target}

theorem isGreatest_largestState (table : List Transition) (final : Nat) :
    IsGreatest (mentioned table final) (largestState table final) := by
  refine ⟨largestState_mem table final, ?_⟩
  rintro s (rfl | ⟨t, ht, rfl | rfl⟩)
  · exact final_le_largestState table s
  · exact (endpoints_le_largestState ht final).1
  · exact (endpoints_le_largestState ht final).2

namespace Layout

open Transition (stateLimit)

theorem record_of_lt {index : Array (Array Nat)} {state : Nat} (h : state < index.size)
    (position : Nat) :
    ∃ recorded, record index state position = .ok recorded ∧ recorded.size = index.size ∧
      ∀ s, entry recorded s = entry index s ++ if state = s then [position] else [] := by
  refine ⟨_, if_pos h, Array.size_modify, ?_⟩
  intro s
  simp only [entry, Array.getD_eq_getD_getElem?, Array.getElem?_modify]
  split
  · next he =>
    subst he
    simp [h]
  · simp

theorem fill_of_lt {table : List Transition} {index : Array (Array Nat)}
    (h : ∀ t ∈ table, t.source < index.size) (position : Nat) :
    ∃ filled, fill index position table = .ok filled ∧ filled.size = index.size ∧
      ∀ s, entry filled s = entry index s ++ table.findIdxs (·.source = s) position := by
  induction table generalizing index position with
  | nil => exact ⟨index, rfl, rfl, fun s => (List.append_nil _).symm⟩
  | cons t table ih =>
    obtain ⟨ht, hrest⟩ := List.forall_mem_cons.mp h
    obtain ⟨recorded, hrecord, hsize, hentry⟩ := record_of_lt ht position
    rw [← hsize] at hrest
    obtain ⟨filled, hfill, hsize', hentry'⟩ := ih hrest (position + 1)
    refine ⟨filled, ?_, hsize'.trans hsize, ?_⟩
    · rw [fill, List.zipIdx_cons, List.foldlM_cons, hrecord]
      exact hfill
    · intro s
      rw [hentry', hentry, List.append_assoc, List.findIdxs_cons]
      by_cases hs : t.source = s <;> simp [hs]

theorem mapM_lookUp (p : Transition → Bool) (before rest : List Transition) :
    (rest.findIdxs p before.length).mapM (lookUp (before ++ rest)) = .ok (rest.filter p) := by
  induction rest generalizing before with
  | nil => rfl
  | cons t rest ih =>
    -- the table is the same, only the part before the positions to be read has grown
    have hrest := ih (before ++ [t])
    rw [List.append_assoc, List.singleton_append, List.length_append, List.length_singleton] at hrest
    rw [List.findIdxs_cons, List.filter_cons]
    by_cases hp : p t = true
    · have hlook : lookUp (before ++ t :: rest) before.length = .ok t := by simp [lookUp]
      rw [if_pos hp, if_pos hp, List.mapM_cons, hlook, hrest]
      rfl
    · rw [if_neg hp, if_neg hp, hrest]

/-- The index lists the positions of the table, each under the state that its transition leaves. -/
structure Files (l : Layout) (table : List Transition) (final : Nat) : Prop where
  table_eq : l.transitions = table
  final_eq : l.final = final
  size_eq : l.index.size = largestState table final + 1
  entry_eq : ∀ s, entry l.index s = table.findIdxs (·.source = s)

theorem exists_files {table : List Transition} {final : Nat}
    (h : largestState table final + 1 < stateLimit) :
    ∃ l, ofTransitions table final = .ok l ∧ l.Files table final := by
  have hstates : sum? (largestState table final) 1 = some (largestState table final + 1) := if_pos h
  have hsource : ∀ t ∈ table,
      t.source < (Array.replicate (largestState table final + 1) (#[] : Array Nat)).size := by
    intro t ht
    rw [Array.size_replicate]
    exact Nat.lt_succ_of_le (endpoints_le_largestState ht final).1
  obtain ⟨index, hfill, hsize, hentry⟩ := fill_of_lt hsource 0
  refine ⟨⟨table, final, index⟩, ?_, rfl, rfl, hsize.trans Array.size_replicate, ?_⟩
  · simp only [ofTransitions, hstates, hfill]
  · intro s
    have hempty : entry (Array.replicate (largestState table final + 1) #[]) s = [] := by
      simp only [entry, Array.getD_eq_getD_getElem?, Array.getElem?_replicate]
      split <;> rfl
    rw [hentry, hempty, List.nil_append]

theorem ofTransitions_of_not_lt {table : List Transition} {final : Nat}
    (h : ¬largestState table final + 1 < stateLimit) :
    ofTransitions table final = .error .overflow := by
  have hstates : sum? (largestState table final) 1 = none := if_neg h
  rw [ofTransitions, hstates]

example : ofTransitions [] (2 ^ 64 - 1) = .error .overflow := by rfl

theorem ofTransitions_cases (table : List Transition) (final : Nat) :
    (∃ l, ofTransitions table final = .ok l ∧ l.Files table final) ∨
      ofTransitions table final = .error .overflow := by
  by_cases h : largestState table final + 1 < stateLimit
  · exact .inl (exists_files h)
  · exact .inr (ofTransitions_of_not_lt h)

namespace Files

variable {l : Layout} {table : List Transition} {final : Nat}

theorem stateCount_eq (h : l.Files table final) :
    l.stateCount = (Automaton.ofTransitions table final).stateCount := by
  rw [Automaton.stateCount_eq]
  exact h.size_eq

theorem outgoing_eq (h : l.Files table final) (s : Nat) :
    l.outgoing s = .ok (table.filter (·.source = s)) := by
  rw [outgoing, h.entry_eq, h.table_eq]
  exact mapM_lookUp _ [] table

theorem mem_entry (h : l.Files table final) {i s : Nat} :
    i ∈ entry l.index s ↔ ∃ hi : i < table.length, table[i].source = s := by
  rw [h.entry_eq, List.mem_findIdxs_iff_exists_getElem_pos]
  simp only [decide_eq_true_eq]

theorem existsUnique_entry (h : l.Files table final) {i : Nat} (hi : i < table.length) :
    ∃! s, i ∈ entry l.index s := by
  refine ⟨table[i].source, h.mem_entry.mpr ⟨hi, rfl⟩, ?_⟩
  intro s hs
  obtain ⟨_, he⟩ := h.mem_entry.mp hs
  exact he.symm

end Files

structure Exact (l : Layout) (table : List Transition) (final : Nat) : Prop where
  table_eq : l.transitions = table
  final_eq : l.final = final
  stateCount : ∃ n, IsGreatest (mentioned table final) n ∧ l.stateCount = n + 1
  outgoing : ∀ s, l.outgoing s = .ok (table.filter (·.source = s))
  listed_once : ∀ i < table.length, ∃! s, i ∈ entry l.index s

theorem Files.exact {l : Layout} {table : List Transition} {final : Nat}
    (h : l.Files table final) : l.Exact table final where
  table_eq := h.table_eq
  final_eq := h.final_eq
  stateCount := ⟨_, isGreatest_largestState table final, h.size_eq⟩
  outgoing := h.outgoing_eq
  listed_once := fun _ => h.existsUnique_entry

theorem files_of_ofTransitions {table : List Transition} {final : Nat} {l : Layout}
    (h : ofTransitions table final = .ok l) : l.Files table final := by
  obtain ⟨l', hl, hfiles⟩ | hfault := ofTransitions_cases table final
  · rw [hl] at h
    cases h
    exact hfiles
  · rw [hfault] at h
    cases h

theorem index_exact :
    (∀ (table : List Transition) (final : Nat), (∀ s ∈ mentioned table final, s < 2 ^ 64 - 1) →
      ∃ l, ofTransitions table final = .ok l ∧ l.Exact table final ∧
        l.stateCount = (Automaton.ofTransitions table final).stateCount ∧
        ∀ s, l.outgoing s = .ok ((Automaton.ofTransitions table final).outgoing s)) ∧
    (∀ (table : List Transition) (final : Nat), ofTransitions table final ≠ .error .outOfRange) ∧
    ∀ (table table' : List Transition) (final final' : Nat) (l l' : Layout),
      ofTransitions table final = .ok l → ofTransitions table' final' = .ok l' →
        (l = l' ↔ l.transitions = l'.transitions ∧ l.final = l'.final) ∧
        (l = l' ↔ Automaton.ofTransitions table final = Automaton.ofTransitions table' final') := by
  refine ⟨?_, ?_, ?_⟩
  · intro table final h
    have hlargest : largestState table final + 1 < stateLimit := by
      have := h _ (largestState_mem table final)
      unfold stateLimit
      omega
    obtain ⟨l, hl, hfiles⟩ := exists_files hlargest
    refine ⟨l, hl, hfiles.exact, hfiles.stateCount_eq, ?_⟩
    intro s
    rw [Automaton.outgoing_eq]
    exact hfiles.outgoing_eq s
  · intro table final h
    obtain ⟨l, hl, -⟩ | hfault := ofTransitions_cases table final
    · rw [hl] at h
      cases h
    · rw [hfault] at h
      cases h
  · intro table table' final final' l l' hl hl'
    have hfiles := files_of_ofTransitions hl
    have hfiles' := files_of_ofTransitions hl'
    have heq : l = l' ↔ table = table' ∧ final = final' := by
      constructor
      · rintro rfl
        exact ⟨hfiles.table_eq.symm.trans hfiles'.table_eq, hfiles.final_eq.symm.trans hfiles'.final_eq⟩
      · rintro ⟨rfl, rfl⟩
        exact Except.ok.inj (hl.symm.trans hl')
    rw [Automaton.eq_iff, hfiles.table_eq, hfiles'.table_eq, hfiles.final_eq, hfiles'.final_eq]
    exact ⟨heq, heq⟩

theorem index_exact_repeats :
    ∃ (table : List Transition) (l l' : Layout),
      table = [.symbol 2 'x' 7, .epsilon 2 2, .symbol 0 'y' 2, .epsilon 2 2] ∧
      ofTransitions table 5 = .ok l ∧ ofTransitions table 9 = .ok l' ∧ l ≠ l' ∧
      l.stateCount = 8 ∧ l'.stateCount = 10 ∧
      l.outgoing 2 = .ok [.symbol 2 'x' 7, .epsilon 2 2, .epsilon 2 2] ∧
      l.outgoing 9 = .ok [] ∧ ∃! s, 3 ∈ entry l.index s := by
  obtain ⟨hbuild, -, hequal⟩ := index_exact
  have hsmall {table : List Transition} {final : Nat} (h : largestState table final < 2 ^ 64 - 1) :
      ∀ s ∈ mentioned table final, s < 2 ^ 64 - 1 :=
    fun s hs => ((isGreatest_largestState table final).2 hs).trans_lt h
  obtain ⟨l, hl, hexact, hcount, -⟩ :=
    hbuild [.symbol 2 'x' 7, .epsilon 2 2, .symbol 0 'y' 2, .epsilon 2 2] 5 (hsmall (by decide))
  obtain ⟨l', hl', -, hcount', -⟩ :=
    hbuild [.symbol 2 'x' 7, .epsilon 2 2, .symbol 0 'y' 2, .epsilon 2 2] 9 (hsmall (by decide))
  refine ⟨_, l, l', rfl, hl, hl', ?_, hcount, hcount', hexact.outgoing 2, hexact.outgoing 9,
    hexact.listed_once 3 (by decide)⟩
  rw [Ne, (hequal _ _ _ _ _ _ hl hl').2, Automaton.eq_iff]
  decide

end Layout

end RegexNfa

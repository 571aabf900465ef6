import RegexNfa.Proofs.Coverage
import Mathlib.Data.List.Induction

namespace RegexNfa

namespace Search

namespace Position

variable {text : List Char} {i : Nat}

theorem ofOffset_eq (hi : i < text.length) :
    ofOffset text i = if i + 1 = text.length then .last text[i] else .inner text[i] := by
  cases text with
  | nil => simp at hi
  | cons c rest =>
    unfold ofOffset
    rw [List.getElem?_eq_getElem hi]

theorem ofOffset_of_lt (hi : i + 1 < text.length) : ofOffset text i = .inner text[i] := by
  rw [ofOffset_eq (by omega), if_neg (by omega)]

theorem isInner_ofOffset_iff : (ofOffset text i).isInner = true ↔ i + 1 < text.length := by
  constructor
  · intro h
    by_contra hn
    by_cases hi : i < text.length
    · rw [ofOffset_eq hi, if_pos (by omega)] at h
      cases h
    · cases text with
      | nil => cases h
      | cons c rest =>
        unfold ofOffset at h
        rw [List.getElem?_eq_none (by omega)] at h
        cases h
  · intro h
    rw [ofOffset_of_lt h]
    rfl

theorem ofOffset_concat (u : List Char) (c : Char) : ofOffset (u ++ [c]) u.length = .last c := by
  rw [ofOffset_eq (by simp), if_pos (by simp), List.getElem_concat_length rfl]

end Position

def advance (a : Automaton) (budget : Budget) (frontier : List Nat) : List Char → List Nat
  | [] => frontier
  | c :: rest => advance a budget (sweep a (.inner c) budget frontier).outcome.deferred rest

theorem advance_concat (a : Automaton) (budget : Budget) (frontier : List Nat) (u : List Char)
    (c : Char) : advance a budget frontier (u ++ [c]) =
      (exploreAll a (.inner c) (advance a budget frontier u) budget).deferred := by
  induction u generalizing frontier with
  | nil => rfl
  | cons d u ih => exact ih _

theorem explores_exploreAll (a : Automaton) (p : Position) (frontier : List Nat) (budget : Budget) :
    Explores a p (roots a frontier) budget (attempts a p (roots a frontier) budget)
      (exploreAll a p frontier budget) := by
  rw [exploreAll_eq_run]
  exact explores_run a p _ _

theorem sweeps_eq_map (a : Automaton) (budget : Budget) (frontier : List Nat) (text : List Char) :
    sweeps a budget frontier text = (List.range (max 1 text.length)).map fun i =>
      sweep a (.ofOffset text i) budget (advance a budget frontier (text.take i)) := by
  induction text generalizing frontier with
  | nil => rfl
  | cons c rest ih =>
    cases rest with
    | nil => rfl
    | cons d rest =>
      have hfirst : Position.ofOffset (c :: d :: rest) 0 = .inner c :=
        Position.ofOffset_of_lt (by simp)
      have hlater : ∀ i ∈ List.range (d :: rest).length,
          Position.ofOffset (c :: d :: rest) (i + 1) = .ofOffset (d :: rest) i := by
        intro i hi
        rw [List.mem_range] at hi
        rw [Position.ofOffset_eq hi, Position.ofOffset_eq (Nat.succ_lt_succ hi)]
        simp
      have hlen : max 1 (d :: rest).length = (d :: rest).length := Nat.max_eq_right (by simp)
      have hlen' : max 1 (c :: d :: rest).length = (d :: rest).length + 1 :=
        Nat.max_eq_right (by simp)
      rw [sweeps, ih, hlen, hlen', List.range_succ_eq_map, List.map_cons, List.map_map, hfirst]
      refine congrArg _ (List.map_congr_left ?_)
      intro i hi
      simp only [Function.comp_apply, Nat.succ_eq_add_one, hlater i hi, List.take_succ_cons,
        advance]

end Search

open Search

namespace Automaton

def frontier (a : Automaton) (u : List Char) : List Nat := advance a (Budget.full a) [0] u

def attemptsAt (a : Automaton) (u : List Char) (p : Position) : List Attempt :=
  attempts a p (roots a (a.frontier u)) (Budget.full a)

def outcomeAt (a : Automaton) (u : List Char) (p : Position) : Outcome :=
  exploreAll a p (a.frontier u) (Budget.full a)

variable {a : Automaton} {u : List Char} {p : Position}

theorem explores_at (a : Automaton) (u : List Char) (p : Position) :
    Explores a p (roots a (a.frontier u)) (Budget.full a) (a.attemptsAt u p) (a.outcomeAt u p) :=
  explores_exploreAll a p _ _

theorem sweeps_eq (a : Automaton) (text : List Char) :
    a.sweeps text = (List.range (max 1 text.length)).map fun i =>
      ⟨a.frontier (text.take i), a.outcomeAt (text.take i) (.ofOffset text i)⟩ :=
  sweeps_eq_map a (Budget.full a) [0] text

theorem getElem?_sweeps (a : Automaton) {text : List Char} {i : Nat} (hi : i < text.length) :
    (a.sweeps text)[i]? =
      some ⟨a.frontier (text.take i), a.outcomeAt (text.take i) (.ofOffset text i)⟩ := by
  rw [sweeps_eq, List.getElem?_map, List.getElem?_range (by omega)]
  rfl

theorem outcomeAt_not_accepted (u : List Char) (hp : p.isInner = true) :
    (a.outcomeAt u p).accepted = false :=
  (explores_at a u p).accepted_of_isInner hp

theorem acceptsChars_concat (a : Automaton) (u : List Char) (c : Char) :
    a.acceptsChars (u ++ [c]) = (a.outcomeAt u (.last c)).accepted := by
  have hlen : max 1 (u ++ [c]).length = u.length + 1 := by simp
  have hearlier : ((List.range u.length).any fun i =>
      (a.outcomeAt ((u ++ [c]).take i) (.ofOffset (u ++ [c]) i)).accepted) = false := by
    rw [List.any_eq_false]
    intro i hi
    rw [List.mem_range] at hi
    rw [Position.ofOffset_of_lt (by simpa using hi), outcomeAt_not_accepted _ rfl]
    exact Bool.false_ne_true
  rw [acceptsChars, sweeps_eq, List.any_map, hlen, List.range_succ, List.any_append]
  simp only [Function.comp_def, hearlier, Bool.false_or, List.any_cons, List.any_nil, Bool.or_false,
    List.take_left, Position.ofOffset_concat]

theorem acceptsChars_nil (a : Automaton) :
    a.acceptsChars [] = (a.outcomeAt [] .blank).accepted := Bool.or_false _

theorem frontier_concat (a : Automaton) (u : List Char) (c : Char) :
    a.frontier (u ++ [c]) = (a.outcomeAt u (.inner c)).deferred := advance_concat a _ _ u c

theorem mem_frontier_concat {c : Char} {s : Nat} :
    s ∈ a.frontier (u ++ [c]) ↔ ∃ t, .read t ∈ a.attemptsAt u (.inner c) ∧ t.target = s := by
  rw [frontier_concat]
  exact (explores_at a u _).mem_deferred rfl s

theorem kept_unread (c : Char) (l : List Attempt) :
    Kept a (.inner c) (fun f s => f = false → Path a.transitions 0 u s) l := by
  -- at an inner offset nothing is read once the flag is set, so the flag may stand for anything
  refine ⟨?_, ?_, ?_⟩
  · intro t f _ ht he hs hf
    exact (hs hf).then_epsilon ht he
  · intro t _ _ _ _ _ hf
    cases hf
  · intro s t v _ _ _ _ hf
    cases hf

theorem arrives_of_mem_frontier {s : Nat} (h : s ∈ a.frontier u) : a.Arrives u s := by
  induction u using List.reverseRecOn generalizing s with
  | nil => exact .inl ⟨rfl, List.mem_singleton.mp h⟩
  | append_singleton u c ih =>
    obtain ⟨t, ht, rfl⟩ := mem_frontier_concat.mp h
    have hroots : ∀ frame ∈ roots a (a.frontier u),
        frame.Holds a fun f s => f = false → Path a.transitions 0 u s := by
      apply forall_mem_roots
      intro s hs
      exact .enter fun _ => (ih hs).path
    obtain ⟨hmem, hr, hs, -⟩ := ((explores_at a u _).sound hroots (kept_unread c _)).1 _ ht
    refine arrives_concat_iff.mpr ⟨t.source, hs rfl, ?_⟩
    rwa [← Position.eq_symbol_of_reads rfl hr]

theorem readsLast (ha : Fragment.Unmixed a.transitions) (p : Position) (s : Nat) :
    ReadsLast p (a.outgoing s) := by
  refine (outgoing_pairwise ha s).imp ?_
  intro t v h
  by_contra hr
  rw [Bool.not_eq_false] at hr
  rw [Position.isEpsilon_of_reads hr] at h
  cases h.1

section ReadsLast

variable (hlast : ∀ s, ReadsLast p (a.outgoing s))
include hlast

theorem no_sibling {s : Nat} {t v : Transition} (h : [t, v].Sublist (a.outgoing s)) :
    p.reads t.label = false := by
  have hpair : ReadsLast p [t, v] := List.Pairwise.sublist h (hlast s)
  simpa [ReadsLast] using hpair

theorem covered_at (ho : (a.outcomeAt u p).accepted = false) :
    Covered a p (roots a (a.frontier u)) (a.attemptsAt u p) :=
  (explores_at a u p).covered ho hlast (forall_mem_roots fun s _ => hlast s)

theorem tried_root (ho : (a.outcomeAt u p).accepted = false) {r : Nat} (hr : r ∈ a.frontier u) :
    Tried p (a.attemptsAt u p) (enter a r false) :=
  (covered_at hlast ho).stack _ (List.mem_map_of_mem hr)

variable (hp : ∀ t : Transition, p.reads t.label = true → p.isInner = true)
include hp

theorem unflagged : ∀ x ∈ a.attemptsAt u p, x.Sound a p fun f _ => f = false := by
  refine ((explores_at a u p).sound (forall_mem_roots fun s _ => .enter rfl) ⟨?_, ?_, ?_⟩).1
  · intro t f _ _ _ hf
    exact hf
  · intro t _ _ hr hn _
    rw [hp t hr] at hn
    cases hn
  · intro s t v hsub hr _ _
    rw [no_sibling hlast hsub] at hr
    cases hr

theorem not_starved_unflagged (t : Transition) : ¬ Starved (a.attemptsAt u p) false t := by
  rintro ⟨hrefused, hn⟩
  obtain ⟨ht, he, -, -⟩ := unflagged hlast hp _ hrefused
  have hleft : 0 < (Budget.full a).left t := by simp [Budget.left_full_of_mem ht he]
  obtain ⟨f, htaken⟩ := (explores_at a u p).taken_of_refused hrefused hleft
  obtain ⟨-, -, rfl, -⟩ := unflagged hlast hp _ htaken
  exact hn htaken

theorem tried_of_path (ho : (a.outcomeAt u p).accepted = false) {r s : Nat} (hr : r ∈ a.frontier u)
    (h : Path a.transitions r [] s) : Tried p (a.attemptsAt u p) (enter a s false) :=
  (covered_at hlast ho).path (fun t _ => not_starved_unflagged hlast hp t) h rfl
    (tried_root hlast ho hr)

end ReadsLast

theorem mem_frontier_of_arrives (ha : Fragment.Unmixed a.transitions) {s : Nat}
    (h : a.Arrives u s) : s ∈ a.frontier u := by
  induction u using List.reverseRecOn generalizing s with
  | nil =>
    obtain ⟨-, rfl⟩ | ⟨v, c, t, hv, -⟩ := h
    · exact .head _
    · exact absurd hv.symm (List.concat_ne_nil c v)
  | append_singleton u c ih =>
    obtain ⟨t, hpath, hc⟩ := arrives_concat_iff.mp h
    obtain ⟨r, hr, hrt⟩ := path_iff_arrives.mp hpath
    have hinner := (explores_at a u (.inner c)).accepted_of_isInner rfl
    have htried := tried_of_path (readsLast ha (.inner c)) (fun _ _ => rfl) hinner (ih hr) hrt
    exact mem_frontier_concat.mpr ⟨_, htried.read_symbol rfl hc, rfl⟩

theorem mem_frontier_iff (ha : Fragment.Unmixed a.transitions) {s : Nat} :
    s ∈ a.frontier u ↔ a.Arrives u s := ⟨arrives_of_mem_frontier, mem_frontier_of_arrives ha⟩

end Automaton

end RegexNfa

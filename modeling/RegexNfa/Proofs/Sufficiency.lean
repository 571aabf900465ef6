import RegexNfa.Proofs.Moves
import RegexNfa.Proofs.Refusal

namespace RegexNfa

open Search

namespace Search

theorem countP_le_one {α : Type} {l : List α} {P : α → Bool} (hl : l.Nodup)
    (h : ∀ x ∈ l, ∀ y ∈ l, P x = true → P y = true → x = y) : l.countP P ≤ 1 := by
  rw [List.countP_eq_length_filter]
  have hn := hl.filter P
  match hf : l.filter P with
  | [] | [_] => simp
  | x :: y :: rest =>
    have hx : x ∈ l.filter P := hf ▸ .head _
    have hy : y ∈ l.filter P := hf ▸ .tail _ (.head _)
    rw [List.mem_filter] at hx hy
    obtain rfl := h x hx.1 y hy.1 hx.2 hy.2
    rw [hf] at hn
    simp at hn

theorem eq_of_length_le_one {l : List Nat} (h : l.length ≤ 1) {r s : Nat} (hr : r ∈ l)
    (hs : s ∈ l) : r = s := by
  match l with
  | [x] => exact (List.mem_singleton.mp hr).trans (List.mem_singleton.mp hs).symm

namespace Explores

variable {a : Automaton} {p : Position} {stack : List Frame} {b : Budget} {l : List Attempt}
  {o : Outcome}

theorem not_refused (h : Explores a p stack b l o) (hn : (l.map Attempt.move).Nodup)
    {t : Transition} (hb : b.left t = 2) (f : Bool) : .refused t f ∉ l := by
  intro ht
  -- the refusal is the one attempt with its flag, so that both uses would be under the other
  have hother (g : Bool) (hg : .taken t g ∈ l) : g = !f := by
    by_contra hne
    obtain rfl : g = f := by simpa using hne
    cases List.inj_on_of_nodup_map hn hg ht rfl
  have hle : (l.countP fun x => x = .taken t false ∨ x = .taken t true) ≤ 1 := by
    apply countP_le_one hn.of_map
    intro x hx y hy hpx hpy
    simp only [decide_eq_true_eq] at hpx hpy
    obtain rfl | rfl := hpx <;> obtain rfl | rfl := hpy
    · rfl
    · cases (hother _ hx).trans (hother _ hy).symm
    · cases (hother _ hx).trans (hother _ hy).symm
    · rfl
  have hl := h.left_eq t
  rw [hb, h.left_of_refused ht] at hl
  omega

theorem length_deferred_le_one (h : Explores a p stack b l o) (hn : (l.map Attempt.move).Nodup)
    (hr : ∀ t u, .read t ∈ l → .read u ∈ l → t = u) : o.deferred.length ≤ 1 := by
  rw [Outcome.deferred, h.events_eq, List.filterMap_filterMap, List.length_filterMap_eq_countP]
  apply countP_le_one hn.of_map
  intro x hx y hy hpx hpy
  cases x with
  | read t =>
    cases y with
    | read u => rw [hr t u hx hy]
    | taken | refused => cases hpy
  | taken | refused => cases hpx

end Explores

end Search

namespace Automaton

variable {a : Automaton} {u : List Char} {p : Position}

theorem mem_moves_roots {states : List Nat} {x : Move} (h : x ∈ moves (roots a states)) :
    x.consumed = false ∧ x.transition.source ∈ states := by
  simp only [moves, roots, enter, List.flatMap_map, List.mem_flatMap, List.mem_map] at h
  obtain ⟨s, hs, t, ht, rfl⟩ := h
  obtain ⟨-, rfl⟩ := mem_outgoing.mp ht
  exact ⟨rfl, hs⟩

section Deterministic

variable (hd : Deterministic a.transitions) (ha : Fragment.Unmixed a.transitions)
  (hn : a.transitions.Nodup)
include hd ha hn

theorem once_at (hu : (a.frontier u).length ≤ 1) (p : Position) :
    Once a p (moves (roots a (a.frontier u))) ((a.attemptsAt u p).map Attempt.move) := by
  refine Explores.once hd ha hn (explores_at a u p) (forall_mem_roots fun s _ => .enter trivial) ?_
  match h : a.frontier u with
  | [] => exact .nil
  | [r] => exact pairwise_apart_siblings hd ha hn r false
  | _ :: _ :: _ => simp [h] at hu

theorem path_of_read (hu : (a.frontier u).length ≤ 1) {t : Transition}
    (ht : .read t ∈ a.attemptsAt u p) :
    ∃ r ∈ a.frontier u, Path a.transitions r [] t.source := by
  obtain ⟨x, hx, ts, hts, -⟩ := (once_at hd ha hn hu p).led _ (List.mem_map_of_mem ht)
  obtain ⟨hf, hs⟩ := mem_moves_roots hx
  exact ⟨_, hs, (hts.epsilonPath hf.symm).path⟩

theorem read_unique (hu : (a.frontier u).length ≤ 1) {t v : Transition}
    (ht : .read t ∈ a.attemptsAt u p) (hv : .read v ∈ a.attemptsAt u p) : t = v := by
  obtain ⟨r, hr, hrt⟩ := path_of_read hd ha hn hu ht
  obtain ⟨s, hs, hsv⟩ := path_of_read hd ha hn hu hv
  obtain rfl := eq_of_length_le_one hu hr hs
  obtain ⟨htable, htr, -⟩ := sound_at ha _ ht
  obtain ⟨hvtable, hvr, -⟩ := sound_at ha _ hv
  exact hd.eq_of_reads ha htable hvtable htr hvr hrt hsv

theorem not_hasRefusal (hu : (a.frontier u).length ≤ 1) (p : Position) :
    (a.outcomeAt u p).hasRefusal = false := by
  by_contra h
  rw [Bool.not_eq_false, (explores_at a u p).hasRefusal_iff] at h
  obtain ⟨t, f, ht⟩ := h
  obtain ⟨htable, he, -⟩ := sound_at ha _ ht
  have hleft := Budget.left_full_of_mem htable he
  exact (explores_at a u p).not_refused (once_at hd ha hn hu p).nodup hleft f ht

theorem length_deferred_le_one (hu : (a.frontier u).length ≤ 1) (p : Position) :
    (a.outcomeAt u p).deferred.length ≤ 1 :=
  (explores_at a u p).length_deferred_le_one (once_at hd ha hn hu p).nodup
    fun _ _ => read_unique hd ha hn hu

theorem length_frontier_le_one (u : List Char) : (a.frontier u).length ≤ 1 := by
  induction u using List.reverseRecOn with
  | nil => exact Nat.le_refl 1
  | append_singleton u c ih =>
    rw [frontier_concat]
    exact length_deferred_le_one hd ha hn ih _

end Deterministic

end Automaton

open Automaton in
theorem budget_suffices {e : String} {a : Automaton} (h : compile e = .ok a)
    (hd : Deterministic a.transitions) (text : String) :
    (a.accepts text = true ↔ a.Spells text.toList) ∧
      ∀ s ∈ a.sweeps text.toList, s.frontier.length ≤ 1 ∧ s.outcome.deferred.length ≤ 1 ∧
        s.outcome.hasRefusal = false := by
  have hc : a.Composed := .compiled h
  have hlen := length_frontier_le_one hd hc.unmixed hc.nodup
  constructor
  · obtain hnil | ⟨u, c, huc⟩ := List.eq_nil_or_concat text.toList
    · rw [accepts, hnil]
      exact acceptsChars_nil_iff hc.unmixed (final_compiled h)
    · rw [List.concat_eq_append] at huc
      rw [accepts, huc, acceptsChars_concat]
      exact accepted_iff_path hc.unmixed (not_hasRefusal hd hc.unmixed hc.nodup (hlen u) _)
  · rw [sweeps_eq, List.forall_mem_map]
    intro i _
    exact ⟨hlen _, length_deferred_le_one hd hc.unmixed hc.nodup (hlen _) _,
      not_hasRefusal hd hc.unmixed hc.nodup (hlen _) _⟩

theorem budget_suffices_three_stars :
    ∃ a, compile "a*b*c*" = .ok a ∧ Deterministic a.transitions ∧
      (a.accepts "abb" = true ↔ a.Spells "abb".toList) ∧
      ∀ s ∈ a.sweeps "abb".toList, s.frontier.length ≤ 1 ∧ s.outcome.deferred.length ≤ 1 ∧
        s.outcome.hasRefusal = false := by
  have hc : compile "a*b*c*" = .ok (.ofFragment (.concat
      (.concat (.star (.literal 'a')) (.star (.literal 'b'))) (.star (.literal 'c')))) := by
    rfl
  have hd : Deterministic (Automaton.ofFragment (.concat
      (.concat (.star (.literal 'a')) (.star (.literal 'b')))
      (.star (.literal 'c')))).transitions := by
    apply Deterministic.of_later fun s =>
      [[1, 3, 4, 6, 7, 9], [], [3, 1, 4, 6, 7, 9], [4, 6, 7, 9], [], [6, 4, 7, 9], [7, 9], [],
        [9, 7]].getD s []
    all_goals decide +kernel
  exact ⟨_, hc, hd, budget_suffices hc hd "abb"⟩

end RegexNfa

import RegexNfa.Automaton.Reading
import RegexNfa.Proofs.Compilation
import RegexNfa.Proofs.Outgoing

/-!
Listings and drawings say all of an automaton. No number in them stands next to a label, so that a
label can be a digit, and no line of one kind reads as one of another.
-/

namespace RegexNfa

namespace Text

theorem expect_append (expected : String) (rest : List Char) :
    expect expected (expected.toList ++ rest) = some rest := by
  simp [expect]

theorem expect_eq_none {expected : String} {c d : Char} {cs : List Char}
    (hc : expected.toList.head? = some c) (hd : cs.head? = some d) (h : c ≠ d) :
    expect expected cs = none := by
  obtain ⟨more, hmore⟩ := List.head?_eq_some_iff.mp hc
  obtain ⟨rest, rfl⟩ := List.head?_eq_some_iff.mp hd
  simp [expect, hmore, h]

theorem readNumber?_toDigits (n : Nat) {rest : List Char}
    (h : ∀ c ∈ rest.head?, c.isDigit = false) :
    readNumber? (Nat.toDigits 10 n ++ rest) = some (n, rest) := by
  have hdigits : ∀ c ∈ Nat.toDigits 10 n, c.isDigit = true := fun c hc =>
    Nat.isDigit_of_mem_toDigits (by decide) (by decide) hc
  have hrest : rest.takeWhile Char.isDigit = [] ∧ rest.dropWhile Char.isDigit = rest := by
    cases rest with
    | nil => simp
    | cons c rest => simp [h c rfl]
  have hne : Nat.toDigits 10 n ≠ [] := List.ne_nil_of_length_pos Nat.length_toDigits_pos
  rw [readNumber?, List.takeWhile_append_of_pos hdigits, List.dropWhile_append_of_pos hdigits,
    hrest.1, hrest.2, List.append_nil, if_neg hne, Nat.ofDigitChars_ten_toDigits]

theorem readNumber?_toDigits_end (n : Nat) : readNumber? (Nat.toDigits 10 n) = some (n, []) := by
  simpa using @readNumber?_toDigits n [] (by simp)

theorem splitOn_unlines {ls : List String} (h : ∀ l ∈ ls, '\n' ∉ l.toList) (rest : List Char) :
    ((unlines ls).toList ++ rest).splitOn '\n' = ls.map String.toList ++ rest.splitOn '\n' := by
  induction ls with
  | nil => simp [unlines]
  | cons l ls ih =>
    obtain ⟨hl, hls⟩ := List.forall_mem_cons.mp h
    have hsplit : (unlines (l :: ls)).toList ++ rest =
        l.toList ++ '\n' :: ((unlines ls).toList ++ rest) := by simp [unlines, String.toList_join]
    rw [hsplit, List.splitOn_append_cons_self_of_not_mem hl, ih hls]
    rfl

theorem not_mem_toDigits {c : Char} (h : c.isDigit = false) (n : Nat) : c ∉ Nat.toDigits 10 n := by
  intro hc
  rw [Nat.isDigit_of_mem_toDigits (by decide) (by decide) hc] at h
  cases h

end Text

open Text Expression

namespace Label

def Plain (l : Label) : Prop := ∀ c, l = .symbol c → 'a' ≤ c ∧ c ≤ 'z' ∨ '0' ≤ c ∧ c ≤ '9'

theorem Plain.mark_ne {l : Label} (h : l.Plain) : l.mark ≠ '\n' := by
  cases l with
  | epsilon => decide
  | symbol c =>
    rintro rfl
    exact absurd (h _ rfl) (by decide)

theorem Plain.ofMark_mark {l : Label} (h : l.Plain) : ofMark l.mark = l := by
  cases l with
  | epsilon => rfl
  | symbol c =>
    have hne : c ≠ 'ε' := by
      rintro rfl
      exact absurd (h _ rfl) (by decide)
    exact if_neg hne

theorem Plain.read?_mark {l : Label} (h : l.Plain) (rest : List Char) :
    read? (l.mark :: rest) = some (l, rest) := by
  rw [read?, h.ofMark_mark]

end Label

def Automaton.Plain (a : Automaton) : Prop := ∀ t ∈ a.transitions, t.label.Plain

namespace Listing

theorem transition?_text {t : Transition} (h : t.label.Plain) :
    transition? t.text.toList = some t := by
  have hsplit : t.text.toList = "(".toList ++ (Nat.toDigits 10 t.source ++ (", ".toList ++
      (t.label.mark :: (", ".toList ++ (Nat.toDigits 10 t.target ++ [')']))))) := by
    simp [Transition.text]
  rw [transition?, hsplit, expect_append]
  simp only [Option.bind_eq_bind, Option.bind_some]
  rw [readNumber?_toDigits _ (by simp)]
  simp only [Option.bind_some, expect_append, h.read?_mark]
  rw [readNumber?_toDigits _ (by simp)]
  simp

theorem final?_text (final : Nat) :
    final? ("Start state: 0  |  Final state: " ++ final.repr).toList = some final := by
  have hsplit : ("Start state: 0  |  Final state: " ++ final.repr).toList =
      "Start state: 0  |  Final state: ".toList ++ Nat.toDigits 10 final := by simp
  rw [final?, hsplit, expect_append]
  simp only [Option.bind_eq_bind, Option.bind_some]
  rw [readNumber?_toDigits_end]
  simp

theorem transition?_final (final : Nat) :
    transition? ("Start state: 0  |  Final state: " ++ final.repr).toList = none := by
  rw [transition?, expect_eq_none (c := '(') (d := 'S') rfl (by simp) (by decide)]
  rfl

theorem final?_transition (t : Transition) : final? t.text.toList = none := by
  rw [final?, expect_eq_none (c := 'S') (d := '(') rfl (by simp [Transition.text]) (by decide)]
  rfl

theorem not_mem_text {t : Transition} (h : t.label.Plain) : '\n' ∉ t.text.toList := by
  have hdigits := not_mem_toDigits (c := '\n') rfl
  simp [Transition.text, hdigits, h.mark_ne.symm]

theorem lines_listing {a : Automaton} (h : a.Plain) :
    lines a.listing = (a.transitions.map fun t => t.text.toList) ++
      [("Start state: 0  |  Final state: " ++ a.final.repr).toList] := by
  have hends : ∀ l ∈ a.transitions.map Transition.text, '\n' ∉ l.toList :=
    List.forall_mem_map.mpr fun t ht => not_mem_text (h t ht)
  have hlast : '\n' ∉ ("Start state: 0  |  Final state: " ++ a.final.repr).toList := by
    have hdigits := not_mem_toDigits (c := '\n') rfl
    simp [hdigits]
  rw [lines, Automaton.listing, String.append_assoc, String.toList_append, splitOn_unlines hends,
    List.splitOn_eq_singleton hlast, List.map_map]
  rfl

theorem transitions_listing {a : Automaton} (h : a.Plain) :
    transitions a.listing = a.transitions := by
  have hread : ∀ t ∈ a.transitions, transition? t.text.toList = some t :=
    fun t ht => transition?_text (h t ht)
  have hlast : [("Start state: 0  |  Final state: " ++ a.final.repr).toList].filterMap transition? =
      [] := by
    rw [List.filterMap_cons_none (transition?_final a.final), List.filterMap_nil]
  rw [transitions, lines_listing h, List.filterMap_append, hlast, List.append_nil,
    List.filterMap_map]
  exact (List.filterMap_congr hread).trans List.filterMap_some

theorem finals_listing {a : Automaton} (h : a.Plain) : finals a.listing = [a.final] := by
  have hnone : (a.transitions.map fun t => t.text.toList).filterMap final? = [] := by
    rw [List.filterMap_eq_nil_iff, List.forall_mem_map]
    exact fun t _ => final?_transition t
  rw [finals, lines_listing h, List.filterMap_append, hnone, List.nil_append,
    List.filterMap_cons_some (final?_text a.final), List.filterMap_nil]

end Listing

namespace Drawing

theorem node?_node (a : Automaton) (s : Nat) :
    node? (a.node s).toList = some ⟨s, s, s = a.final⟩ := by
  by_cases hf : s = a.final
  · have hsplit : (a.node s).toList = "node[label=\"".toList ++ (Nat.toDigits 10 s ++
        ("\"".toList ++ (", shape=doublecircle".toList ++
          ("] id".toList ++ Nat.toDigits 10 s)))) := by
      unfold Automaton.node
      simp [hf]
    rw [node?, hsplit, expect_append]
    simp only [Option.bind_eq_bind, Option.bind_some]
    rw [readNumber?_toDigits _ (by simp)]
    simp only [Option.bind_some, expect_append, Option.getD_some]
    rw [readNumber?_toDigits_end]
    simp [hf]
  · have hsplit : (a.node s).toList = "node[label=\"".toList ++ (Nat.toDigits 10 s ++
        ("\"".toList ++ ("] id".toList ++ Nat.toDigits 10 s))) := by
      unfold Automaton.node
      simp [hf]
    have hplain (rest : List Char) : expect ", shape=doublecircle" ("] id".toList ++ rest) = none :=
      expect_eq_none (c := ',') (d := ']') rfl rfl (by decide)
    rw [node?, hsplit, expect_append]
    simp only [Option.bind_eq_bind, Option.bind_some]
    rw [readNumber?_toDigits _ (by simp)]
    simp only [Option.bind_some, expect_append, hplain, Option.getD_none]
    rw [readNumber?_toDigits_end]
    simp [hf]

theorem edge?_edge {t : Transition} (h : t.label.Plain) :
    edge? (Automaton.edge t).toList = some t := by
  have hsplit : (Automaton.edge t).toList = "id".toList ++ (Nat.toDigits 10 t.source ++
      (" -> id".toList ++ (Nat.toDigits 10 t.target ++ (" [label=\"".toList ++
        (t.label.mark :: "\"]".toList))))) := by
    simp [Automaton.edge]
  rw [edge?, hsplit, expect_append]
  simp only [Option.bind_eq_bind, Option.bind_some]
  rw [readNumber?_toDigits _ (by simp)]
  simp only [Option.bind_some, expect_append]
  rw [readNumber?_toDigits _ (by simp)]
  simp only [Option.bind_some, expect_append, h.read?_mark, ↓reduceIte]

theorem head?_node (a : Automaton) (s : Nat) : (a.node s).toList.head? = some 'n' := by
  unfold Automaton.node
  simp

theorem head?_edge (t : Transition) : (Automaton.edge t).toList.head? = some 'i' := by
  simp [Automaton.edge]

theorem edge?_node (a : Automaton) (s : Nat) : edge? (a.node s).toList = none := by
  rw [edge?, expect_eq_none (c := 'i') rfl (head?_node a s) (by decide)]
  rfl

theorem node?_edge (t : Transition) : node? (Automaton.edge t).toList = none := by
  rw [node?, expect_eq_none (c := 'n') rfl (head?_edge t) (by decide)]
  rfl

theorem not_mem_node (a : Automaton) (s : Nat) : '\n' ∉ (a.node s).toList := by
  have hdigits := not_mem_toDigits (c := '\n') rfl
  unfold Automaton.node
  by_cases hf : s = a.final <;> simp [hf, hdigits]

theorem not_mem_edge {t : Transition} (h : t.label.Plain) : '\n' ∉ (Automaton.edge t).toList := by
  have hdigits := not_mem_toDigits (c := '\n') rfl
  simp [Automaton.edge, hdigits, h.mark_ne.symm]

theorem lines_graphviz {a : Automaton} (h : a.Plain) :
    lines a.graphviz = ["digraph \x7b", "rankdir=LR"].map String.toList ++
      ((List.range a.stateCount).map fun s => (a.node s).toList) ++
        (a.transitions.map fun t => (Automaton.edge t).toList) ++
          ["\x7d", ""].map String.toList := by
  have hends : ∀ l ∈ a.graphvizLines, '\n' ∉ l.toList := by
    simp only [Automaton.graphvizLines, List.forall_mem_append, List.forall_mem_map]
    exact ⟨⟨⟨by decide, fun s _ => not_mem_node a s⟩, fun t ht => not_mem_edge (h t ht)⟩, by decide⟩
  have hlines := splitOn_unlines hends []
  rw [List.append_nil] at hlines
  rw [lines, Automaton.graphviz, hlines]
  simp [Automaton.graphvizLines, Function.comp_def]

theorem filterMap_lines {a : Automaton} (h : a.Plain) {β : Type} {f : List Char → Option β}
    (hf : ∀ l ∈ ["digraph \x7b", "rankdir=LR", "\x7d", ""], f l.toList = none) :
    (lines a.graphviz).filterMap f =
      ((List.range a.stateCount).filterMap fun s => f (a.node s).toList) ++
        a.transitions.filterMap fun t => f (Automaton.edge t).toList := by
  have hopen : (["digraph \x7b", "rankdir=LR"].map String.toList).filterMap f = [] := by
    rw [List.filterMap_eq_nil_iff, List.forall_mem_map]
    exact fun l hl => hf l (List.mem_append_left ["\x7d", ""] hl)
  have hclose : (["\x7d", ""].map String.toList).filterMap f = [] := by
    rw [List.filterMap_eq_nil_iff, List.forall_mem_map]
    exact fun l hl => hf l (List.mem_append_right ["digraph \x7b", "rankdir=LR"] hl)
  rw [lines_graphviz h, List.filterMap_append, List.filterMap_append, List.filterMap_append, hopen,
    hclose, List.append_nil, List.nil_append, List.filterMap_map, List.filterMap_map]
  rfl

theorem nodes_graphviz {a : Automaton} (h : a.Plain) :
    nodes a.graphviz = (List.range a.stateCount).map fun s => ⟨s, s, s = a.final⟩ := by
  rw [nodes, filterMap_lines h (by decide)]
  simp only [node?_node, node?_edge, List.filterMap_none, List.append_nil]
  exact congrFun List.filterMap_eq_map' _

theorem edges_graphviz {a : Automaton} (h : a.Plain) : edges a.graphviz = a.transitions := by
  have hread : ∀ t ∈ a.transitions, edge? (Automaton.edge t).toList = some t :=
    fun t ht => edge?_edge (h t ht)
  rw [edges, filterMap_lines h (by decide)]
  simp only [edge?_node, List.filterMap_none, List.nil_append]
  rw [List.filterMap_congr hread, List.filterMap_some]

theorem others_graphviz {a : Automaton} (h : a.Plain) :
    others a.graphviz = ["digraph \x7b", "rankdir=LR", "\x7d", ""].map String.toList := by
  have hnodes : ((List.range a.stateCount).map fun s => (a.node s).toList).filter
      (fun line => (node? line).isNone && (edge? line).isNone) = [] := by
    simp [List.filter_eq_nil_iff, node?_node]
  have hedges : (a.transitions.map fun t => (Automaton.edge t).toList).filter
      (fun line => (node? line).isNone && (edge? line).isNone) = [] := by
    rw [List.filter_eq_nil_iff, List.forall_mem_map]
    intro t ht
    simp [edge?_edge (h t ht)]
  rw [others, lines_graphviz h, List.filter_append, List.filter_append, List.filter_append, hnodes,
    hedges, List.append_nil, List.append_nil]
  decide

end Drawing

namespace Fragment

def Plain (f : Fragment) : Prop := ∀ t ∈ f.transitions, t.label.Plain

theorem Plain.shifted {f : Fragment} (h : f.Plain) (k : Nat) :
    ∀ t ∈ f.shifted k, t.label.Plain := by
  intro t ht
  obtain ⟨u, hu, rfl⟩ := mem_shifted.mp ht
  exact h u hu

theorem plain_epsilon (s u : Nat) : (Transition.epsilon s u).label.Plain := by
  intro c hc
  cases hc

theorem Plain.concat {a b : Fragment} (ha : a.Plain) (hb : b.Plain) : (concat a b).Plain := by
  intro t ht
  obtain ht | ht := mem_concat.mp ht
  · exact ha t ht
  · exact hb.shifted _ t ht

theorem Plain.union {a b : Fragment} (ha : a.Plain) (hb : b.Plain) : (union a b).Plain := by
  intro t ht
  rcases mem_union.mp ht with rfl | ht | rfl | rfl | ht | rfl
  · exact plain_epsilon _ _
  · exact ha.shifted _ t ht
  · exact plain_epsilon _ _
  · exact plain_epsilon _ _
  · exact hb.shifted _ t ht
  · exact plain_epsilon _ _

theorem Plain.star {a : Fragment} (ha : a.Plain) : (star a).Plain := by
  intro t ht
  rcases mem_star.mp ht with rfl | ht | rfl | rfl | rfl
  · exact plain_epsilon _ _
  · exact ha.shifted _ t ht
  all_goals exact plain_epsilon _ _

end Fragment

theorem Expression.Derives.plain {level : Level} {s : List Char} {r : Regex}
    (h : Derives .strict level s r) : r.toFragment.Plain := by
  induction h with
  | @symbol c hc =>
    intro t ht d hd
    obtain rfl := List.mem_singleton.mp ht
    cases hd
    exact hc
  | group _ ih | atom _ ih | item _ ih | sequence _ ih => exact ih
  | star _ ih => exact ih.star
  | concat _ _ ihq ihr => exact ihq.concat ihr
  | union _ _ ihq ihr => exact ihq.union ihr

theorem plain_compiled {e : String} {a : Automaton} (h : compile e = .ok a) : a.Plain := by
  obtain ⟨r, hr, rfl⟩ := (compile_eq_ok_iff e a).mp h
  generalize e.toList = s at hr
  cases hr with
  | derived hd => exact hd.plain
  | empty _ =>
    intro t ht
    obtain rfl := List.mem_singleton.mp ht
    exact Fragment.plain_epsilon 0 1

namespace Drawing

variable {a : Automaton}

theorem countP_nodes (h : a.Plain) {s : Nat} (hs : s < a.stateCount) :
    (nodes a.graphviz).countP (·.state = s) = 1 := by
  rw [nodes_graphviz h, List.countP_map]
  exact List.count_eq_one_of_mem List.nodup_range (List.mem_range.mpr hs)

theorem doubled_nodes (h : a.Plain) :
    (nodes a.graphviz).filter (·.doubled) = [⟨a.final, a.final, true⟩] := by
  have hf : a.final < a.stateCount := by
    rw [a.stateCount_eq]
    exact Nat.lt_succ_of_le (final_le_largestState _ _)
  have hstates : (List.range a.stateCount).filter (· = a.final) = [a.final] := by
    rw [List.filter_eq, List.count_eq_one_of_mem List.nodup_range (List.mem_range.mpr hf)]
    rfl
  have hdoubled : (fun n : Node => n.doubled) ∘ (fun s => ⟨s, s, s = a.final⟩) =
      fun s => decide (s = a.final) := rfl
  rw [nodes_graphviz h, List.filter_map, hdoubled, hstates]
  simp

theorem countP_declared (h : a.Plain) {s : Nat}
    (hs : (∃ t ∈ edges a.graphviz, s = t.source ∨ s = t.target) ∨ s = a.final) :
    (nodes a.graphviz).countP (·.state = s) = 1 := by
  apply countP_nodes h
  rw [a.stateCount_eq, Nat.lt_succ_iff]
  obtain ⟨t, ht, hs⟩ | rfl := hs
  · rw [edges_graphviz h] at ht
    obtain ⟨hsource, htarget⟩ := endpoints_le_largestState ht a.final
    obtain rfl | rfl := hs
    · exact hsource
    · exact htarget
  · exact final_le_largestState _ _

end Drawing

theorem listing_injective {a b : Automaton} (ha : a.Plain) (hb : b.Plain)
    (h : a.listing = b.listing) : a = b := by
  have ht := Listing.transitions_listing ha
  have hf := Listing.finals_listing ha
  rw [h, Listing.transitions_listing hb] at ht
  rw [h, Listing.finals_listing hb] at hf
  exact (Automaton.eq_iff a b).mpr ⟨ht.symm, (List.head_eq_of_cons_eq hf).symm⟩

theorem graphviz_injective {a b : Automaton} (ha : a.Plain) (hb : b.Plain)
    (h : a.graphviz = b.graphviz) :
    a.transitions = b.transitions ∧ a.final = b.final ∧ a.stateCount = b.stateCount := by
  have ht := Drawing.edges_graphviz ha
  have hf := Drawing.doubled_nodes ha
  have hn := congrArg List.length (Drawing.nodes_graphviz ha)
  rw [h, Drawing.edges_graphviz hb] at ht
  rw [h, Drawing.doubled_nodes hb] at hf
  rw [h, Drawing.nodes_graphviz hb, List.length_map, List.length_map, List.length_range,
    List.length_range] at hn
  exact ⟨ht.symm, congrArg Drawing.Node.state (List.head_eq_of_cons_eq hf).symm, hn.symm⟩

theorem renderings_faithful :
    (∀ (e : String) (a : Automaton), compile e = .ok a → a.Plain) ∧
    (∀ a b : Automaton, a.Plain → b.Plain → a.listing = b.listing → a = b) ∧
    (∀ a b : Automaton, a.Plain → b.Plain → a.graphviz = b.graphviz →
      a.transitions = b.transitions ∧ a.final = b.final ∧ a.stateCount = b.stateCount) ∧
    ∀ a : Automaton, a.Plain →
      (∀ s, (∃ t ∈ Drawing.edges a.graphviz, s = t.source ∨ s = t.target) ∨ s = a.final →
        (Drawing.nodes a.graphviz).countP (·.state = s) = 1) ∧
      (Drawing.nodes a.graphviz).filter (·.doubled) = [⟨a.final, a.final, true⟩] ∧
      Drawing.edges a.graphviz = a.transitions ∧
      Drawing.others a.graphviz =
        ["digraph \x7b", "rankdir=LR", "\x7d", ""].map String.toList := by
  refine ⟨fun e a => plain_compiled, fun a b => listing_injective, fun a b => graphviz_injective, ?_⟩
  intro a ha
  exact ⟨fun s => Drawing.countP_declared ha, Drawing.doubled_nodes ha, Drawing.edges_graphviz ha,
    Drawing.others_graphviz ha⟩

theorem renderings_faithful_digits :
    ∃ a b : Automaton, compile "1*" = .ok a ∧ a.Plain ∧ b.Plain ∧
      b = .ofTransitions [.epsilon 0 1, .symbol 1 '1' 2, .epsilon 2 3, .epsilon 2 1, .epsilon 0 3] 3 ∧
      a.listing = b.listing ∧ a = b ∧ a.graphviz = b.graphviz ∧
      (a.transitions = b.transitions ∧ a.final = b.final ∧ a.stateCount = b.stateCount) ∧
      (∃ t ∈ Drawing.edges a.graphviz, 2 = t.source ∨ 2 = t.target) ∧
      (Drawing.nodes a.graphviz).countP (·.state = 2) = 1 ∧
      (Drawing.nodes a.graphviz).filter (·.doubled) = [⟨3, 3, true⟩] := by
  have hc : compile "1*" = .ok (.ofFragment (.star (.literal '1'))) := by
    rfl
  obtain ⟨hplain, hlisting, hgraphviz, hdrawing⟩ := renderings_faithful
  have ha := hplain _ _ hc
  have hedge : ∃ t ∈ Drawing.edges (Automaton.ofFragment (.star (.literal '1'))).graphviz,
      2 = t.source ∨ 2 = t.target := by
    rw [(hdrawing _ ha).2.2.1]
    exact ⟨.epsilon 2 3, by decide, .inl rfl⟩
  exact ⟨_, _, hc, ha, ha, rfl, rfl, hlisting _ _ ha ha rfl, rfl, hgraphviz _ _ ha ha rfl, hedge,
    (hdrawing _ ha).1 2 (.inl hedge), (hdrawing _ ha).2.1⟩

end RegexNfa

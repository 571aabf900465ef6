import RegexNfa.Proofs.FragmentShape

namespace RegexNfa

namespace Fragment

def point : Fragment := ⟨[], 0⟩

theorem point_concat (f : Fragment) : concat point f = f := by
  simp [concat, point, shifted]

theorem concat_point (f : Fragment) : concat f point = f := by
  simp [concat, point, shifted]

theorem shifted_concat (a b : Fragment) (k : Nat) :
    (concat a b).shifted k = a.shifted k ++ b.shifted (k + a.final) := by
  simp [shifted, concat, Transition.shifted, Nat.add_assoc, Nat.add_comm k a.final]

theorem concat_assoc (a b c : Fragment) : concat (concat a b) c = concat a (concat b c) := by
  have h : a.transitions ++ b.shifted a.final ++ c.shifted (a.final + b.final) =
      a.transitions ++ (concat b c).shifted a.final := by
    rw [shifted_concat, List.append_assoc]
  exact congrArg₂ Fragment.mk h (Nat.add_assoc _ _ _)

theorem shifted_injective {a b : Fragment} {k : Nat} (hf : a.final = b.final)
    (h : a.shifted k = b.shifted k) : a = b := by
  obtain ⟨l, m⟩ := a
  obtain ⟨l', m'⟩ := b
  obtain rfl : l = l' := (Transition.shifted_injective k).list_map h
  obtain rfl : m = m' := hf
  rfl

theorem ends_point : point.Ends := fun _ ht => nomatch ht

def exits (f : Fragment) (s : Nat) : List Transition := f.transitions.filter (·.source = s)

theorem filter_shifted_of_lt (f : Fragment) {k s : Nat} (hs : s < k) :
    (f.shifted k).filter (·.source = s) = [] := by
  rw [List.filter_eq_nil_iff]
  intro t ht he
  have hle := le_source_of_mem_shifted ht
  simp only [decide_eq_true_eq] at he
  omega

theorem filter_shifted_of_le {f : Fragment} (h : f.Ends) {k s : Nat} (hs : k + f.final ≤ s) :
    (f.shifted k).filter (·.source = s) = [] := by
  rw [List.filter_eq_nil_iff]
  intro t ht he
  have hlt := h.source_shifted_lt ht
  simp only [decide_eq_true_eq] at he
  omega

theorem exits_concat {a b : Fragment} {s : Nat} (hs : s < a.final) :
    (concat a b).exits s = a.exits s := by
  rw [exits, concat, List.filter_append, filter_shifted_of_lt b hs, List.append_nil, exits]

theorem exits_eq {a b x y : Fragment} (h : concat a x = concat b y) {s : Nat} (ha : s < a.final)
    (hb : s < b.final) : a.exits s = b.exits s := by
  rw [← exits_concat ha, h, exits_concat hb]

theorem exits_star_start (a : Fragment) :
    (star a).exits 0 = [.epsilon 0 1, .epsilon 0 (a.final + 2)] := by
  simp [exits, star, stateCount, filter_shifted_of_lt a Nat.one_pos]

theorem exits_star_last {a : Fragment} (ha : a.Ends) :
    (star a).exits (a.final + 1) =
      [.epsilon (a.final + 1) (a.final + 2), .epsilon (a.final + 1) 1] := by
  have hout := filter_shifted_of_le ha (Nat.le_of_eq (Nat.add_comm 1 a.final))
  simp [exits, star, stateCount, hout]

theorem exits_union_start (a b : Fragment) :
    (union a b).exits 0 = [.epsilon 0 1, .epsilon 0 (a.final + 2)] := by
  simp [exits, union, stateCount, filter_shifted_of_lt a Nat.one_pos,
    filter_shifted_of_lt b (Nat.succ_pos _)]

theorem exits_union_left {a : Fragment} (ha : a.Ends) (b : Fragment) :
    (union a b).exits (a.final + 1) = [.epsilon (a.final + 1) (a.final + b.final + 3)] := by
  have hout := filter_shifted_of_le ha (Nat.le_of_eq (Nat.add_comm 1 a.final))
  have hout' := filter_shifted_of_lt b (Nat.lt_succ_self (a.final + 1))
  have hf : a.final + 1 + (b.final + 1) + 1 = a.final + b.final + 3 := by omega
  simp [exits, union, stateCount, hout, hout', hf]

theorem right_final_eq {a b a' b' x y : Fragment} (ha : a.Ends) (ha' : a'.Ends)
    (h : concat (union a b) x = concat (union a' b') y) (hf : a.final = a'.final) :
    b.final = b'.final := by
  have hlast := exits_eq h (s := a.final + 1) (by rw [final_union]; omega)
    (by rw [final_union]; omega)
  rw [exits_union_left ha, hf, exits_union_left ha'] at hlast
  simpa [Transition.epsilon] using hlast

theorem concat_union_ne_concat_star {a b c x y : Fragment} (ha : a.Ends) (hc : c.Ends)
    (hf : a.final = c.final) : concat (union a b) x ≠ concat (star c) y := by
  intro h
  have hlast := exits_eq h (s := a.final + 1) (by rw [final_union]; omega)
    (by rw [final_star]; omega)
  rw [exits_union_left ha, hf, exits_star_last hc] at hlast
  simp at hlast

theorem filter_concat {a : Fragment} (ha : a.Ends) (b : Fragment) :
    (concat a b).transitions.filter (·.source < a.final) = a.transitions := by
  rw [concat, List.filter_append, List.filter_eq_self.mpr, List.filter_eq_nil_iff.mpr,
    List.append_nil]
  · intro t ht
    simpa using le_source_of_mem_shifted ht
  · intro t ht
    simpa using ha t ht

theorem concat_cancel {a a' b b' : Fragment} (ha : a.Ends) (ha' : a'.Ends)
    (hf : a.final = a'.final) (h : concat a b = concat a' b') : a = a' ∧ b = b' := by
  have hl : a.transitions = a'.transitions := by
    rw [← filter_concat ha b, ← filter_concat ha' b', h, hf]
  obtain rfl : a = a' := by
    obtain ⟨l, m⟩ := a
    obtain ⟨l', m'⟩ := a'
    exact congrArg₂ Fragment.mk hl hf
  refine ⟨rfl, shifted_injective (k := a.final) ?_ ?_⟩
  · exact Nat.add_left_cancel (congrArg final h)
  · exact List.append_cancel_left (congrArg transitions h)

theorem star_injective {a a' : Fragment} (h : star a = star a') : a = a' := by
  have hfinal : a.final + 2 = a'.final + 2 := congrArg final h
  have hf := Nat.add_right_cancel hfinal
  have ht := List.tail_eq_of_cons_eq (congrArg transitions h)
  exact shifted_injective hf (List.append_inj_left' ht rfl)

theorem takeWhile_shifted {f : Fragment} (h : f.Ends) {n : Nat} {t : Transition}
    (hn : 1 + f.final ≤ n) (ht : n ≤ t.source) (rest : List Transition) :
    (f.shifted 1 ++ t :: rest).takeWhile (·.source < n) = f.shifted 1 := by
  rw [List.takeWhile_append_of_pos, List.takeWhile_cons_of_neg, List.append_nil]
  · simpa using ht
  · intro u hu
    have := h.source_shifted_lt hu
    simp only [decide_eq_true_eq]
    omega

theorem union_injective {a a' b b' : Fragment} (ha : a.Ends) (ha' : a'.Ends)
    (hf : a.final = a'.final) (h : union a b = union a' b') : a = a' ∧ b = b' := by
  have hf' : b.final = b'.final := by
    have hfinal := congrArg final h
    simp only [final_union] at hfinal
    omega
  have htable := congrArg transitions h
  simp only [union, stateCount, hf, hf', List.cons_append, List.append_assoc, List.cons.injEq,
    true_and] at htable
  -- the copy of the left operand ends where the final state of that operand is left
  have hl : a.shifted 1 = a'.shifted 1 := by
    have hcopy := congrArg (List.takeWhile (·.source < a'.final + 1)) htable
    rwa [takeWhile_shifted (n := a'.final + 1) ha (by omega) (Nat.le_refl _),
      takeWhile_shifted (n := a'.final + 1) ha' (by omega) (Nat.le_refl _)] at hcopy
  rw [hl] at htable
  have hr := List.append_cancel_left htable
  simp only [List.cons.injEq, true_and] at hr
  exact ⟨shifted_injective hf hl, shifted_injective hf' (List.append_inj_left' hr rfl)⟩

end Fragment

end RegexNfa

import RegexNfa.Proofs.Compilation
import RegexNfa.Proofs.FragmentShape
import RegexNfa.Proofs.Paths

namespace RegexNfa

namespace Fragment

def Spells (f : Fragment) (w : List Char) : Prop := Path f.transitions 0 w f.final

/-- The table holds a copy of the fragment, and nothing else leaves the states of the copy before
its final one. -/
structure Embeds (f : Fragment) (k : Nat) (table : List Transition) : Prop where
  copy : ∀ t ∈ f.shifted k, t ∈ table
  only : ∀ t ∈ table, k ≤ t.source → t.source < k + f.final → t ∈ f.shifted k

theorem Embeds.path {f : Fragment} {k : Nat} {table : List Transition} (he : Embeds f k table)
    {s u : Nat} {w : List Char} (h : Path f.transitions s w u) :
    Path table (s + k) w (u + k) := (h.shifted k).mono he.copy

theorem Embeds.leave {f : Fragment} {k : Nat} {table : List Transition} (he : Embeds f k table)
    (hf : f.Sealed) {s x u : Nat} {w : List Char} (h : Path table x w u) (hx : x = s + k)
    (hs : s ≤ f.final) (hu : f.final + k ≤ u) :
    ∃ v v', w = v ++ v' ∧ Path f.transitions s v f.final ∧ Path table (f.final + k) v' u := by
  induction h using Path.step_induction generalizing s with
  | nil =>
    obtain rfl : s = f.final := by omega
    exact ⟨[], [], rfl, .nil _, hx ▸ .nil _⟩
  | step t ht w hp ih =>
    by_cases hlast : s = f.final
    · subst hlast
      exact ⟨[], _, rfl, .nil _, hx ▸ .step ht hp⟩
    · obtain ⟨v, hv, rfl⟩ := mem_shifted.mp (he.only t ht (by omega) (by omega))
      obtain ⟨y, z, rfl, hy, hz⟩ := ih rfl (hf.target_le v hv)
      obtain rfl : v.source = s := by
        simp only [Transition.source_shifted] at hx
        omega
      exact ⟨_, z, (List.append_assoc _ _ _).symm, .step hv hy, hz⟩

theorem embeds_concat_left {a b : Fragment} : Embeds a 0 (concat a b).transitions := by
  constructor
  · intro t ht
    exact mem_concat.mpr (.inl (by simpa [mem_shifted] using ht))
  · intro t ht _ hlt
    obtain ht | ht := mem_concat.mp ht
    · exact mem_shifted.mpr ⟨t, ht, rfl⟩
    · have := le_source_of_mem_shifted ht
      omega

theorem embeds_concat_right {a b : Fragment} (ha : a.Sealed) :
    Embeds b a.final (concat a b).transitions := by
  constructor
  · intro t ht
    exact mem_concat.mpr (.inr ht)
  · intro t ht hle _
    obtain ht | ht := mem_concat.mp ht
    · have := ha.source_lt t ht
      omega
    · exact ht

theorem embeds_union_left {a b : Fragment} : Embeds a 1 (union a b).transitions := by
  constructor
  · intro t ht
    exact mem_union.mpr (.inr (.inl ht))
  · intro t ht hle hlt
    rcases mem_union.mp ht with rfl | ht | rfl | rfl | ht | rfl
    · simp at hle
    · exact ht
    · simp only [Transition.source_epsilon] at hlt
      omega
    · simp at hle
    · have := le_source_of_mem_shifted ht
      omega
    · simp only [Transition.source_epsilon] at hlt
      omega

theorem embeds_union_right {a b : Fragment} (ha : a.Sealed) :
    Embeds b (a.final + 2) (union a b).transitions := by
  constructor
  · intro t ht
    exact mem_union.mpr (.inr (.inr (.inr (.inr (.inl ht)))))
  · intro t ht hle hlt
    rcases mem_union.mp ht with rfl | ht | rfl | rfl | ht | rfl
    · simp at hle
    · have := source_shifted_bounds ha ht
      omega
    · simp only [Transition.source_epsilon] at hle
      omega
    · simp at hle
    · exact ht
    · simp only [Transition.source_epsilon] at hlt
      omega

theorem embeds_star {a : Fragment} : Embeds a 1 (star a).transitions := by
  constructor
  · intro t ht
    exact mem_star.mpr (.inr (.inl ht))
  · intro t ht hle hlt
    rcases mem_star.mp ht with rfl | ht | rfl | rfl | rfl
    · simp at hle
    · exact ht
    · simp only [Transition.source_epsilon] at hlt
      omega
    · simp only [Transition.source_epsilon] at hlt
      omega
    · simp at hle

theorem Sealed.eq_nil_of_final {f : Fragment} (hf : f.Sealed) {u : Nat} {w : List Char}
    (h : Path f.transitions f.final w u) : f.final = u ∧ w = [] :=
  h.eq_nil_of_sink fun t ht => Nat.ne_of_lt (hf.source_lt t ht)

theorem spells_literal (c : Char) (w : List Char) : (literal c).Spells w ↔ w = [c] := by
  constructor
  · intro h
    obtain ⟨h, -⟩ | ⟨t, ht, -, v, rfl, hv⟩ := h.first_step
    · exact absurd h Nat.zero_ne_one
    · obtain rfl := List.mem_singleton.mp ht
      obtain ⟨-, rfl⟩ := (sealed_literal c).eq_nil_of_final hv
      rfl
  · rintro rfl
    exact .symbol (t := 1) (by simp [literal]) (.nil 1)

theorem spells_epsilon (w : List Char) : epsilon.Spells w ↔ w = [] := by
  constructor
  · intro h
    obtain ⟨-, h⟩ | ⟨t, ht, -, v, rfl, hv⟩ := h.first_step
    · exact h
    · obtain rfl := List.mem_singleton.mp ht
      obtain ⟨-, rfl⟩ := sealed_epsilon.eq_nil_of_final hv
      rfl
  · rintro rfl
    exact .epsilon (t := 1) (by simp [epsilon]) (.nil 1)

theorem spells_concat {a b : Fragment} (ha : a.Sealed) (hb : b.Sealed) (w : List Char) :
    (concat a b).Spells w ↔ ∃ u v, w = u ++ v ∧ a.Spells u ∧ b.Spells v := by
  constructor
  · intro h
    have hf := final_concat a b
    obtain ⟨u, v, rfl, hu, hv⟩ :=
      embeds_concat_left.leave ha h (s := 0) rfl (Nat.zero_le _) (by omega)
    obtain ⟨x, y, rfl, hx, hy⟩ :=
      (embeds_concat_right ha).leave hb hv (s := 0) (by omega) (Nat.zero_le _) (by omega)
    rw [Nat.add_comm] at hy
    obtain ⟨-, rfl⟩ := (ha.concat hb).eq_nil_of_final hy
    exact ⟨u, x, by simp, hu, hx⟩
  · rintro ⟨u, v, rfl, hu, hv⟩
    have hl := (embeds_concat_left (b := b)).path hu
    have hr := (embeds_concat_right ha).path hv
    simp only [Nat.add_zero, Nat.zero_add] at hl hr
    rw [Nat.add_comm] at hr
    exact hl.append hr

theorem union_leave_start {a b : Fragment} {t : Transition} (ht : t ∈ (union a b).transitions)
    (hs : t.source = 0) : t = .epsilon 0 1 ∨ t = .epsilon 0 (a.final + 2) := by
  rcases mem_union.mp ht with h | ht | rfl | h | ht | rfl
  · exact .inl h
  · have := le_source_of_mem_shifted ht
    omega
  · simp at hs
  · exact .inr h
  · have := le_source_of_mem_shifted ht
    omega
  · simp at hs

theorem union_leave_left {a b : Fragment} (ha : a.Sealed) {t : Transition}
    (ht : t ∈ (union a b).transitions) (hs : t.source = a.final + 1) :
    t = .epsilon (a.final + 1) (a.final + b.final + 3) := by
  rcases mem_union.mp ht with rfl | ht | h | rfl | ht | rfl
  · simp at hs
  · have := source_shifted_bounds ha ht
    omega
  · exact h
  · simp at hs
  · have := le_source_of_mem_shifted ht
    omega
  · simp only [Transition.source_epsilon] at hs
    omega

theorem union_leave_right {a b : Fragment} (ha : a.Sealed) (hb : b.Sealed) {t : Transition}
    (ht : t ∈ (union a b).transitions) (hs : t.source = a.final + b.final + 2) :
    t = .epsilon (a.final + b.final + 2) (a.final + b.final + 3) := by
  rcases mem_union.mp ht with rfl | ht | rfl | rfl | ht | h
  · simp at hs
  · have := source_shifted_bounds ha ht
    omega
  · simp only [Transition.source_epsilon] at hs
    omega
  · simp at hs
  · have := source_shifted_bounds hb ht
    omega
  · exact h

theorem spells_union {a b : Fragment} (ha : a.Sealed) (hb : b.Sealed) (w : List Char) :
    (union a b).Spells w ↔ a.Spells w ∨ b.Spells w := by
  have hf := final_union a b
  have hsink {v : List Char} {u : Nat}
      (h : Path (union a b).transitions (a.final + b.final + 3) v u) : v = [] :=
    ((ha.union hb).eq_nil_of_final (hf ▸ h)).2
  unfold Spells
  rw [hf]
  constructor
  · intro h
    obtain ⟨h, -⟩ | ⟨t, ht, hs, v, rfl, hv⟩ := h.first_step
    · omega
    obtain rfl | rfl := union_leave_start ht hs
    · obtain ⟨x, y, rfl, hx, hy⟩ :=
        embeds_union_left.leave ha hv (s := 0) rfl (Nat.zero_le _) (by omega)
      obtain ⟨h, -⟩ | ⟨t, ht, hs, z, rfl, hz⟩ := hy.first_step
      · omega
      obtain rfl := union_leave_left ha ht hs
      obtain rfl := hsink hz
      exact .inl (by simpa [Label.word] using hx)
    · obtain ⟨x, y, rfl, hx, hy⟩ :=
        (embeds_union_right ha).leave hb hv (s := 0) (Nat.zero_add _).symm (Nat.zero_le _) (by omega)
      obtain ⟨h, -⟩ | ⟨t, ht, hs, z, rfl, hz⟩ := hy.first_step
      · omega
      obtain rfl := union_leave_right ha hb ht (by omega)
      obtain rfl := hsink hz
      exact .inr (by simpa [Label.word] using hx)
  · rintro (h | h)
    · have hp := (embeds_union_left (b := b)).path h
      have hin : Transition.epsilon 0 1 ∈ (union a b).transitions := mem_union.mpr (.inl rfl)
      have hout : Transition.epsilon (a.final + 1) (a.final + b.final + 3) ∈
          (union a b).transitions := mem_union.mpr (.inr (.inr (.inl rfl)))
      simpa using (Path.epsilon hin hp).append (.epsilon hout (.nil _))
    · have hp := (embeds_union_right ha).path h
      rw [Nat.zero_add, show b.final + (a.final + 2) = a.final + b.final + 2 by omega] at hp
      have hin : Transition.epsilon 0 (a.final + 2) ∈ (union a b).transitions :=
        mem_union.mpr (.inr (.inr (.inr (.inl rfl))))
      have hout : Transition.epsilon (a.final + b.final + 2) (a.final + b.final + 3) ∈
          (union a b).transitions := mem_union.mpr (.inr (.inr (.inr (.inr (.inr rfl)))))
      simpa using (Path.epsilon hin hp).append (.epsilon hout (.nil _))

theorem star_leave_start {a : Fragment} {t : Transition} (ht : t ∈ (star a).transitions)
    (hs : t.source = 0) : t = .epsilon 0 1 ∨ t = .epsilon 0 (a.final + 2) := by
  rcases mem_star.mp ht with h | ht | rfl | rfl | h
  · exact .inl h
  · have := le_source_of_mem_shifted ht
    omega
  · simp at hs
  · simp at hs
  · exact .inr h

theorem star_leave_last {a : Fragment} (ha : a.Sealed) {t : Transition}
    (ht : t ∈ (star a).transitions) (hs : t.source = a.final + 1) :
    t = .epsilon (a.final + 1) (a.final + 2) ∨ t = .epsilon (a.final + 1) 1 := by
  rcases mem_star.mp ht with rfl | ht | h | h | rfl
  · simp at hs
  · have := source_shifted_bounds ha ht
    omega
  · exact .inl h
  · exact .inr h
  · simp at hs

theorem star_rest {a : Fragment} (ha : a.Sealed) {s x : Nat} {w : List Char}
    (h : Path (star a).transitions x w (a.final + 2)) (hx : x = s + 1) (hs : s ≤ a.final) :
    ∃ (v : List Char) (ws : List (List Char)),
      w = v ++ ws.flatten ∧ Path a.transitions s v a.final ∧ ∀ u ∈ ws, a.Spells u := by
  induction h using Path.step_induction generalizing s with
  | nil => omega
  | step t ht w hp ih =>
    by_cases hlast : s = a.final
    · subst hlast
      obtain rfl | rfl := star_leave_last ha ht hx
      · obtain ⟨-, rfl⟩ := ha.star.eq_nil_of_final hp
        exact ⟨[], [], rfl, .nil _, by simp⟩
      · obtain ⟨v, ws, rfl, hv, hws⟩ := ih (s := 0) rfl (Nat.zero_le _)
        exact ⟨[], v :: ws, rfl, .nil _, List.forall_mem_cons.mpr ⟨hv, hws⟩⟩
    · obtain ⟨u, hu, rfl⟩ := mem_shifted.mp (embeds_star.only t ht (by omega) (by omega))
      obtain ⟨v, ws, rfl, hv, hws⟩ := ih rfl (ha.target_le u hu)
      obtain rfl : u.source = s := Nat.add_right_cancel hx
      exact ⟨_, ws, (List.append_assoc _ _ _).symm, .step hu hv, hws⟩

theorem star_repeat {a : Fragment} {ws : List (List Char)} (h : ∀ u ∈ ws, a.Spells u) :
    Path (star a).transitions (a.final + 1) ws.flatten (a.final + 2) := by
  induction ws with
  | nil => exact .epsilon (mem_star.mpr (.inr (.inr (.inl rfl)))) (.nil _)
  | cons w ws ih =>
    obtain ⟨hw, hws⟩ := List.forall_mem_cons.mp h
    have hback : Transition.epsilon (a.final + 1) 1 ∈ (star a).transitions :=
      mem_star.mpr (.inr (.inr (.inr (.inl rfl))))
    exact .epsilon hback ((embeds_star.path hw).append (ih hws))

theorem spells_star {a : Fragment} (ha : a.Sealed) (w : List Char) :
    (star a).Spells w ↔ ∃ ws : List (List Char), w = ws.flatten ∧ ∀ u ∈ ws, a.Spells u := by
  constructor
  · intro h
    obtain ⟨h, -⟩ | ⟨t, ht, hs, v, rfl, hv⟩ := h.first_step
    · simp [final_star] at h
    obtain rfl | rfl := star_leave_start ht hs
    · obtain ⟨x, ws, rfl, hx, hws⟩ := star_rest ha hv (s := 0) rfl (Nat.zero_le _)
      exact ⟨x :: ws, rfl, List.forall_mem_cons.mpr ⟨hx, hws⟩⟩
    · obtain ⟨-, rfl⟩ := ha.star.eq_nil_of_final hv
      exact ⟨[], rfl, by simp⟩
  · rintro ⟨ws, rfl, h⟩
    cases ws with
    | nil => exact .epsilon (mem_star.mpr (.inr (.inr (.inr (.inr rfl))))) (.nil _)
    | cons w ws =>
      obtain ⟨hw, hws⟩ := List.forall_mem_cons.mp h
      exact .epsilon (mem_star.mpr (.inl rfl)) ((embeds_star.path hw).append (star_repeat hws))

end Fragment

namespace Regex

theorem matches_epsilon_iff (w : List Char) : Matches .epsilon w ↔ w = [] := by
  constructor
  · intro h
    cases h
    rfl
  · rintro rfl
    exact .epsilon

theorem matches_symbol_iff (c : Char) (w : List Char) : Matches (.symbol c) w ↔ w = [c] := by
  constructor
  · intro h
    cases h
    rfl
  · rintro rfl
    exact .symbol c

theorem matches_concat_iff (r s : Regex) (w : List Char) :
    Matches (.concat r s) w ↔ ∃ u v, w = u ++ v ∧ Matches r u ∧ Matches s v := by
  constructor
  · intro h
    cases h with
    | concat hu hv => exact ⟨_, _, rfl, hu, hv⟩
  · rintro ⟨u, v, rfl, hu, hv⟩
    exact .concat hu hv

theorem matches_union_iff (r s : Regex) (w : List Char) :
    Matches (.union r s) w ↔ Matches r w ∨ Matches s w := by
  constructor
  · intro h
    cases h with
    | left h => exact .inl h
    | right h => exact .inr h
  · rintro (h | h)
    · exact .left h
    · exact .right h

theorem matches_star_iff (r : Regex) (w : List Char) :
    Matches (.star r) w ↔ ∃ ws : List (List Char), w = ws.flatten ∧ ∀ u ∈ ws, Matches r u := by
  constructor
  · intro h
    generalize hq : Regex.star r = q at h
    induction h with
    | epsilon | symbol | concat | left | right => cases hq
    | star_nil => exact ⟨[], rfl, by simp⟩
    | @star_append r' u v hu _ _ ih =>
      cases hq
      obtain ⟨ws, rfl, hws⟩ := ih rfl
      exact ⟨u :: ws, rfl, List.forall_mem_cons.mpr ⟨hu, hws⟩⟩
  · rintro ⟨ws, rfl, h⟩
    induction ws with
    | nil => exact .star_nil
    | cons u ws ih =>
      obtain ⟨hu, hws⟩ := List.forall_mem_cons.mp h
      exact .star_append hu (ih hws)

theorem spells_toFragment (r : Regex) (w : List Char) : r.toFragment.Spells w ↔ r.Matches w := by
  induction r generalizing w with
  | epsilon => rw [toFragment, Fragment.spells_epsilon, matches_epsilon_iff]
  | symbol c => rw [toFragment, Fragment.spells_literal, matches_symbol_iff]
  | concat r s ihr ihs =>
    rw [toFragment, Fragment.spells_concat r.toFragment_sealed s.toFragment_sealed,
      matches_concat_iff]
    simp only [ihr, ihs]
  | union r s ihr ihs =>
    rw [toFragment, Fragment.spells_union r.toFragment_sealed s.toFragment_sealed,
      matches_union_iff, ihr, ihs]
  | star r ih =>
    rw [toFragment, Fragment.spells_star r.toFragment_sealed, matches_star_iff]
    simp only [ih]

end Regex

theorem spells_compiled {e : String} {a : Automaton} (h : compile e = .ok a) (w : List Char) :
    a.Spells w ↔ Expression.Denotes e.toList w := by
  obtain ⟨r, hr, rfl⟩ := (Expression.compile_eq_ok_iff e a).mp h
  refine (r.spells_toFragment w).trans ⟨fun hw => ⟨r, hr, hw⟩, ?_⟩
  rintro ⟨q, hq, hw⟩
  rwa [hr.unique hq]

theorem paths_spell_language :
    (∀ (r : Regex) (w : List Char), Path r.toFragment.transitions 0 w r.toFragment.final ↔
      r.Matches w) ∧
    ∀ (e : String) (a : Automaton), compile e = .ok a →
      ∀ w : List Char, Path a.transitions 0 w a.final ↔ Expression.Denotes e.toList w := by
  refine ⟨Regex.spells_toFragment, ?_⟩
  intro e a h w
  exact spells_compiled h w

theorem paths_spell_language_starred :
    compile "(a|b)*" = .ok (.ofFragment (.star (.union (.literal 'a') (.literal 'b')))) ∧
      ∀ w : List Char,
        Path (Fragment.star (.union (.literal 'a') (.literal 'b'))).transitions 0 w 7 ↔
          Expression.Denotes "(a|b)*".toList w := by
  have h : compile "(a|b)*" = .ok (.ofFragment (.star (.union (.literal 'a') (.literal 'b')))) := by
    rfl
  exact ⟨h, paths_spell_language.2 _ _ h⟩

end RegexNfa

import RegexNfa.Proofs.SurfaceRules

namespace RegexNfa.Expression

def Ready (s : List Char) : Prop :=
  s = [] ∨ (∃ t r, s = t ++ ['|'] ∧ Derives .strict .alternation t r) ∨
    ∃ r, Derives .strict .alternation s r

theorem Ready.add {s t : List Char} {q : Regex} (hs : Ready s) (ht : Derives .strict .atom t q) :
    ∃ r, Derives .strict .alternation (s ++ t) r := by
  rcases hs with rfl | ⟨u, r, rfl, hu⟩ | ⟨r, hr⟩
  · exact ⟨_, .sequence (.item (.atom ht))⟩
  · rw [List.append_assoc, List.singleton_append]
    exact ⟨_, .union hu (.item (.atom ht))⟩
  · cases hr with
    | sequence h => exact ⟨_, .sequence (.concat h (.atom ht))⟩
    | union h h' =>
      rw [List.append_assoc, List.cons_append]
      exact ⟨_, .union h (.concat h' (.atom ht))⟩

theorem Derives.star_of_item {s : List Char} {r : Regex} (h : Derives .strict .item s r)
    (hl : s.getLast? ≠ some '*') : Derives .strict .item (s ++ ['*']) (.star r) := by
  cases h with
  | atom h => exact .star h
  | star h => exact absurd List.getLast?_concat hl

theorem Derives.star_of_sequence {s : List Char} {r : Regex} (h : Derives .strict .sequence s r)
    (hl : s.getLast? ≠ some '*') : ∃ q, Derives .strict .sequence (s ++ ['*']) q := by
  cases h with
  | item h => exact ⟨_, .item (h.star_of_item hl)⟩
  | @concat s t q r hs ht =>
    obtain ⟨c, hc, -⟩ := ht.getLast
    have ht' := ht.star_of_item (by simpa [List.getLast?_append, hc] using hl)
    rw [List.append_assoc]
    exact ⟨_, .concat hs ht'⟩

theorem Derives.star_of_alternation {s : List Char} {r : Regex}
    (h : Derives .strict .alternation s r) (hl : s.getLast? ≠ some '*') :
    ∃ q, Derives .strict .alternation (s ++ ['*']) q := by
  cases h with
  | sequence h =>
    obtain ⟨q, hq⟩ := h.star_of_sequence hl
    exact ⟨q, .sequence hq⟩
  | @union s t q r hs ht =>
    obtain ⟨c, hc, -⟩ := ht.getLast
    obtain ⟨q', hq'⟩ :=
      ht.star_of_sequence (by simpa [List.getLast?_append, List.getLast?_cons, hc] using hl)
    rw [List.append_assoc, List.cons_append]
    exact ⟨_, .union hs hq'⟩

/-- How far the innermost level has been read: an operand must come next, or the level could end
here. -/
inductive Stage (s : List Char) (previous : Option Char) (rest : List Char) : Prop
  | waiting : Ready s → begins rest = true → Stage s previous rest
  | complete {r : Regex} :
      Derives .strict .alternation s r → s.getLast? = previous → Stage s previous rest

theorem Stage.ready {s rest : List Char} {previous : Option Char} (h : Stage s previous rest) :
    Ready s := by
  cases h with
  | waiting h _ => exact h
  | complete h _ => exact .inr (.inr ⟨_, h⟩)

theorem Stage.complete_of_not_begins {s rest : List Char} {previous : Option Char}
    (h : Stage s previous rest) (hr : begins rest = false) :
    ∃ r, Derives .strict .alternation s r ∧ s.getLast? = previous := by
  cases h with
  | waiting _ hb => simp [hr] at hb
  | complete h hl => exact ⟨_, h, hl⟩

def nest : List (List Char) → List Char → List Char
  | [], s => s
  | level :: outer, s => nest outer (level ++ '(' :: s)

theorem stalls_cons_eq_zero {c : Char} {rest : List Char} (h : stalls (c :: rest) = 0) :
    (awaits c = true → begins rest = true) ∧ stalls rest = 0 := by
  unfold stalls at h
  cases ha : awaits c <;> cases hb : begins rest <;> simp_all

theorem exists_derives_of_scan {rest : List Char} {previous : Option Char}
    {outer : List (List Char)} {s : List Char} (ho : ∀ level ∈ outer, Ready level)
    (hs : Stage s previous rest) (hv : scan previous outer.length rest = true)
    (hn : stalls rest = 0) : ∃ r, Derives .strict .alternation (nest outer (s ++ rest)) r := by
  induction rest generalizing previous outer s with
  | nil =>
    obtain ⟨r, hr, -⟩ := hs.complete_of_not_begins rfl
    have he : outer = [] := by simpa [scan] using hv
    subst he
    exact ⟨r, by simpa [nest] using hr⟩
  | cons c rest ih =>
    obtain ⟨hb, hr'⟩ := stalls_cons_eq_zero hn
    have hsplit : s ++ c :: rest = (s ++ [c]) ++ rest := by simp
    rcases (isAllowed_iff c).mp (isAllowed_of_scan hv c List.mem_cons_self) with hc | rfl | rfl | rfl | rfl
    · rw [scan_operand hc] at hv
      obtain ⟨r, hr⟩ := hs.ready.add (.symbol ((isOperand_iff c).mp hc))
      rw [hsplit]
      exact ih ho (.complete hr List.getLast?_concat) hv hr'
    · rw [scan_opening] at hv
      have ho' : ∀ level ∈ s :: outer, Ready level := by
        intro level hl
        obtain rfl | hl := List.mem_cons.mp hl
        · exact hs.ready
        · exact ho level hl
      have hs' : Stage [] (some '(') rest := .waiting (.inl rfl) (hb rfl)
      exact ih ho' hs' hv hr'
    · rw [scan_closing, Bool.and_eq_true, bne_iff_ne] at hv
      obtain ⟨hd, hv⟩ := hv
      obtain ⟨r, hr, -⟩ := hs.complete_of_not_begins rfl
      cases outer with
      | nil => exact absurd rfl hd
      | cons level outer =>
        obtain ⟨q, hq⟩ := (ho level (by simp)).add (.group hr)
        have hl : (level ++ '(' :: (s ++ [')'])).getLast? = some ')' := by
          rw [← List.cons_append, ← List.append_assoc]
          exact List.getLast?_concat
        have he : nest (level :: outer) (s ++ ')' :: rest) =
            nest outer ((level ++ '(' :: (s ++ [')'])) ++ rest) := by simp [nest]
        rw [he]
        exact ih (fun l hl => ho l (List.mem_cons_of_mem _ hl)) (.complete hq hl) hv hr'
    · rw [scan_star, Bool.and_eq_true, bne_iff_ne] at hv
      obtain ⟨r, hr, hl⟩ := hs.complete_of_not_begins rfl
      obtain ⟨q, hq⟩ := hr.star_of_alternation (by rw [hl]; exact hv.1)
      rw [hsplit]
      exact ih ho (.complete hq List.getLast?_concat) hv.2 hr'
    · rw [scan_bar, Bool.and_eq_true] at hv
      obtain ⟨r, hr, -⟩ := hs.complete_of_not_begins rfl
      rw [hsplit]
      exact ih ho (.waiting (.inr (.inl ⟨s, r, rfl, hr⟩)) (hb rfl)) hv.2 hr'

theorem begins_of_isValid {e : String} (h : isValid e = true) : begins e.toList = true := by
  obtain ⟨⟨c, hc, hc'⟩, -⟩ := (isValid_iff e).mp h
  obtain ⟨rest, hr⟩ := List.head?_eq_some_iff.mp hc
  rw [hr, begins]
  obtain hc' | rfl := hc'
  · obtain ⟨-, h2, h3, h4⟩ := operand_ne hc'
    simp [h2, h3, h4]
  · decide

theorem exists_derives_of_isValid {e : String} (h : isValid e = true) (hn : stalls e.toList = 0) :
    ∃ r, Derives .strict .alternation e.toList r := by
  have hs : Stage [] none e.toList := .waiting (.inl rfl) (begins_of_isValid h)
  have hv : scan none ([] : List (List Char)).length e.toList = true := ((isValid_iff e).mp h).2
  simpa [nest] using exists_derives_of_scan (by simp) hs hv hn

end RegexNfa.Expression

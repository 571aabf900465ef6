import RegexNfa.Proofs.Parsing

namespace RegexNfa

namespace Lexeme

theorem ofChars_cons (c : Char) (rest : List Char) :
    ofChars (c :: rest) = ofChar c :: link [c] rest ++ ofChars rest := by
  simpa [ofChars] using ofChars_append [c] rest

theorem token?_ofChar_eq_none {c : Char} (h : (ofChar c).token? = none) : c = '(' ∨ c = ')' := by
  unfold ofChar at h
  split_ifs at h with h1 h2 h3 h4
  · exact .inl h1
  · exact .inr h2
  all_goals simp [token?] at h

theorem filterMap_token?_eq_nil_iff (s : List Char) :
    (ofChars s).filterMap token? = [] ↔
      ∃ m n, s = List.replicate m '(' ++ List.replicate n ')' := by
  constructor
  · intro h
    induction s with
    | nil => exact ⟨0, 0, rfl⟩
    | cons c rest ih =>
      rw [ofChars_cons, List.filterMap_append, List.append_eq_nil_iff] at h
      obtain ⟨h, hr⟩ := h
      obtain ⟨m, n, rfl⟩ := ih hr
      have hc : (ofChar c).token? = none := by
        cases hc : (ofChar c).token? with
        | none => rfl
        | some t => simp [hc] at h
      obtain rfl | rfl := token?_ofChar_eq_none hc
      · exact ⟨m + 1, n, by simp [List.replicate_succ]⟩
      · cases m with
        | zero => exact ⟨0, n + 1, by simp [List.replicate_succ]⟩
        | succ m =>
          have hl : link [')'] (List.replicate (m + 1) '(' ++ List.replicate n ')') =
              [.operator .concat] := by simp [link, List.replicate_succ, juxtaposed]
          have ht : (Lexeme.operator .concat).token? = some (.operator .concat) := rfl
          simp [hl, ht, hc] at h
  · rintro ⟨m, n, rfl⟩
    have ho : (ofChar '(').token? = none := rfl
    have hc : (ofChar ')').token? = none := rfl
    induction m with
    | zero =>
      induction n with
      | zero => rfl
      | succ n ih =>
        have hl : link [')'] (List.replicate n ')') = [] := by
          cases n with
          | zero => exact link_nil _
          | succ n => exact link_mark_right (.inr (.inr rfl)) _ _
        simp only [List.replicate_zero, List.nil_append] at ih ⊢
        simp [List.replicate_succ, ofChars_cons, hl, hc, ih]
    | succ m ih =>
      simp [List.replicate_succ, ofChars_cons, link_mark_left (.inl rfl), ho, ih]

end Lexeme

namespace Regex

theorem evaluate_eq_error {tokens : List Token} {stack : List Regex} {position : Nat}
    {e : CompileError} (h : evaluate stack position tokens = .error e) :
    ∃ o p, e = .missingOperand o p := by
  fun_induction evaluate stack position tokens with
  | case1 => simp at h
  | case2 stack position c rest ih => exact ih h
  | case3 stack position o rest next hp ih => exact ih h
  | case4 stack position o rest hp =>
    cases h
    exact ⟨o, position, rfl⟩

end Regex

namespace Expression

theorem postfix_eq_nil_iff (s : List Char) :
    Postfix.ofChars s = [] ↔ ∃ m n, s = List.replicate m '(' ++ List.replicate n ')' := by
  rw [← Lexeme.filterMap_token?_eq_nil_iff, ← List.perm_nil, ← List.perm_nil]
  exact ⟨(Postfix.ofChars_perm s).symm.trans, (Postfix.ofChars_perm s).trans⟩

theorem emptyGroups_of_isValid {e : String} (hv : isValid e = true)
    (h : Postfix.ofChars e.toList = []) : ∃ depth, 1 ≤ depth ∧ e.toList = emptyGroups depth := by
  obtain ⟨m, n, he⟩ := (postfix_eq_nil_iff _).mp h
  obtain ⟨⟨c, hc, -⟩, hs⟩ := (isValid_iff e).mp hv
  rw [he, scan_parentheses, beq_iff_eq, Nat.zero_add] at hs
  subst hs
  refine ⟨m, ?_, he⟩
  by_contra hm
  obtain rfl : m = 0 := by omega
  simp [he] at hc

theorem ofPostfix_of_parses {s : List Char} {r : Regex} (h : Parses s r) :
    Regex.ofPostfix (Postfix.ofChars s) = .ok r := by
  cases h with
  | derived h => exact Regex.ofPostfix_of_derives h.general
  | empty =>
    rw [emptyGroups, (postfix_eq_nil_iff _).mpr ⟨_, _, rfl⟩]
    rfl

theorem isValid_of_parses {e : String} {r : Regex} (h : Parses e.toList r) : isValid e = true := by
  generalize hs : e.toList = s at h
  cases h with
  | derived h => exact isValid_of_derives (hs ▸ h)
  | empty hd => exact isValid_of_emptyGroups hd hs

theorem exists_parses_of_evaluate {e : String} {stack : List Regex} (hv : isValid e = true)
    (h : Regex.evaluate [] 0 (Postfix.ofChars e.toList) = .ok stack) :
    ∃ r, Parses e.toList r := by
  by_cases ht : Postfix.ofChars e.toList = []
  · obtain ⟨depth, hd, he⟩ := emptyGroups_of_isValid hv ht
    exact ⟨.epsilon, he ▸ .empty hd⟩
  · -- the stack is not empty, so that no operand is missing
    have hl := Regex.evaluate_length h
    have hpos := List.length_pos_iff.mpr (Regex.evaluate_ne_nil h (.inr ht))
    rw [balance_translated, begins_of_isValid hv] at hl
    simp only [List.length_nil, ↓reduceIte] at hl
    obtain ⟨r, hr⟩ := exists_derives_of_isValid hv (by omega)
    exact ⟨r, .derived hr⟩

theorem parse_of_parses {e : String} {r : Regex} (h : Parses e.toList r) : parse e = .ok r := by
  rw [parse, isValid_of_parses h, if_pos rfl]
  exact ofPostfix_of_parses h

theorem parse_eq_ok_iff (e : String) (r : Regex) : parse e = .ok r ↔ Parses e.toList r := by
  refine ⟨?_, parse_of_parses⟩
  intro h
  have hv : isValid e = true := by
    by_contra hv
    simp [parse, hv] at h
  rw [parse, hv, if_pos rfl] at h
  cases he : Regex.evaluate [] 0 (Postfix.ofChars e.toList) with
  | error err => simp [Regex.ofPostfix, Postfix.ofExpression, he] at h
  | ok stack =>
    obtain ⟨q, hq⟩ := exists_parses_of_evaluate hv he
    have hr := ofPostfix_of_parses hq
    rw [Postfix.ofExpression, hr] at h
    cases h
    exact hq

theorem Parses.unique {s : List Char} {q r : Regex} (hq : Parses s q) (hr : Parses s r) : q = r := by
  have h := ofPostfix_of_parses hq
  rw [ofPostfix_of_parses hr] at h
  cases h
  rfl

theorem Parses.iff_eq {s : List Char} {r : Regex} (h : Parses s r) (q : Regex) :
    Parses s q ↔ q = r := by
  constructor
  · exact fun hq => hq.unique h
  · rintro rfl
    exact h

theorem compile_eq_ok_iff (e : String) (a : Automaton) :
    compile e = .ok a ↔ ∃ r, Parses e.toList r ∧ a = .ofFragment r.toFragment := by
  simp only [← parse_eq_ok_iff, compile]
  cases parse e with
  | ok r => simp [eq_comm]
  | error err => simp

theorem isAllowed_of_compile {e : String} {a : Automaton} (h : compile e = .ok a) :
    ∀ c ∈ e.toList, isAllowed c = true := by
  obtain ⟨r, hr, -⟩ := (compile_eq_ok_iff e a).mp h
  exact isAllowed_of_scan ((isValid_iff e).mp (isValid_of_parses hr)).2

theorem compile_eq_ok_iff_exists (e : String) :
    (∃ a, compile e = .ok a) ↔ ∃ r, Parses e.toList r := by
  constructor
  · rintro ⟨a, ha⟩
    obtain ⟨r, hr, -⟩ := (compile_eq_ok_iff e a).mp ha
    exact ⟨r, hr⟩
  · rintro ⟨r, hr⟩
    exact ⟨_, (compile_eq_ok_iff e _).mpr ⟨r, hr, rfl⟩⟩

theorem exists_parses_iff (s : List Char) :
    (∃ r, Parses s r) ↔
      (∃ r, Derives .strict .alternation s r) ∨ ∃ depth, 1 ≤ depth ∧ s = emptyGroups depth := by
  constructor
  · rintro ⟨r, hr⟩
    cases hr with
    | derived h => exact .inl ⟨r, h⟩
    | empty hd => exact .inr ⟨_, hd, rfl⟩
  · rintro (⟨r, hr⟩ | ⟨depth, hd, rfl⟩)
    · exact ⟨r, .derived hr⟩
    · exact ⟨.epsilon, .empty hd⟩

theorem compile_of_not_isValid {e : String} (h : isValid e = false) :
    compile e = .error (.invalidExpression e) := by
  simp [compile, parse, h]

theorem compile_of_not_parses {e : String} (hv : isValid e = true) (h : ¬ ∃ r, Parses e.toList r) :
    ∃ o p, compile e = .error (.missingOperand o p) := by
  cases he : Regex.evaluate [] 0 (Postfix.ofChars e.toList) with
  | ok stack => exact absurd (exists_parses_of_evaluate hv he) h
  | error err =>
    obtain ⟨o, p, rfl⟩ := Regex.evaluate_eq_error he
    refine ⟨o, p, ?_⟩
    simp [compile, parse, hv, Postfix.ofExpression, Regex.ofPostfix, he]

theorem length_le_one_of_evaluate {s : List Char} {stack : List Regex}
    (h : Regex.evaluate [] 0 (Postfix.ofChars s) = .ok stack) : stack.length ≤ 1 := by
  have hl := Regex.evaluate_length h
  rw [balance_translated, List.length_nil] at hl
  split at hl <;> omega

theorem build_translated (s : String) :
    (∃ f, build (Postfix.ofExpression s) = .ok f) ∨
      ∃ o p, build (Postfix.ofExpression s) = .error (.missingOperand o p) := by
  rw [Postfix.ofExpression]
  cases he : Regex.evaluate [] 0 (Postfix.ofChars s.toList) with
  | error err =>
    obtain ⟨o, p, rfl⟩ := Regex.evaluate_eq_error he
    exact .inr ⟨o, p, by simp [build, Regex.ofPostfix, he]⟩
  | ok stack =>
    have hl := length_le_one_of_evaluate he
    cases stack with
    | nil => exact .inl ⟨_, by rw [build, Regex.ofPostfix, he]⟩
    | cons r rest =>
      obtain rfl := List.eq_nil_of_length_eq_zero (Nat.le_zero.mp (Nat.le_of_succ_le_succ hl))
      exact .inl ⟨_, by rw [build, Regex.ofPostfix, he]⟩

theorem build_ne_unconsumedFragments (s : String) (n : Nat) :
    build (Postfix.ofExpression s) ≠ .error (.unconsumedFragments n) := by
  obtain ⟨f, h⟩ | ⟨o, p, h⟩ := build_translated s <;> rw [h] <;> simp

theorem compile_grammar (e : String) :
    ((∃ a, compile e = .ok a) ↔
      (∃ r, Derives .strict .alternation e.toList r) ∨
        ∃ depth, 1 ≤ depth ∧ e.toList = emptyGroups depth) ∧
    ((¬ ∃ a, compile e = .ok a) →
      (isValid e = false → compile e = .error (.invalidExpression e)) ∧
      (isValid e = true → ∃ o p, compile e = .error (.missingOperand o p))) := by
  refine ⟨(compile_eq_ok_iff_exists e).trans (exists_parses_iff e.toList), ?_⟩
  intro hn
  refine ⟨compile_of_not_isValid, ?_⟩
  intro hv
  exact compile_of_not_parses hv (fun h => hn ((compile_eq_ok_iff_exists e).mpr h))

end Expression

end RegexNfa

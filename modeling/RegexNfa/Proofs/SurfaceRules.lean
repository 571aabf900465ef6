import RegexNfa.Expression.WellFormed
import RegexNfa.Proofs.Grammar

namespace RegexNfa.Expression

theorem isAllowed_iff (c : Char) :
    isAllowed c = true ↔ isOperand c = true ∨ c = '(' ∨ c = ')' ∨ c = '*' ∨ c = '|' := by
  simp [isAllowed, or_assoc]

def Undoubled (previous : Option Char) (rest : List Char) : Prop :=
  ∀ c, c = '*' ∨ c = '|' → ¬ [c, c] <:+: previous.toList ++ rest

theorem undoubled_nil (previous : Option Char) : Undoubled previous [] := by
  intro c _ h
  have hlength := h.length_le
  cases previous <;> simp at hlength

theorem pair_infix_cons_cons (c p d : Char) (rest : List Char) :
    [c, c] <:+: p :: d :: rest ↔ (p = c ∧ d = c) ∨ [c, c] <:+: d :: rest := by
  rw [List.infix_cons_iff, List.cons_prefix_cons, List.cons_prefix_cons]
  simp [eq_comm]

theorem undoubled_cons (previous : Option Char) (d : Char) (rest : List Char) :
    Undoubled previous (d :: rest) ↔ doubles previous d = false ∧ Undoubled (some d) rest := by
  cases previous with
  | none => simp [Undoubled, doubles]
  | some p =>
    have hd : doubles (some p) d = false ↔ ∀ c, c = '*' ∨ c = '|' → ¬ (p = c ∧ d = c) := by
      simp only [doubles, Bool.and_eq_false_imp, Bool.or_eq_true, beq_iff_eq]
      constructor
      · rintro h c hc ⟨rfl, rfl⟩
        exact absurd (h hc) (by simp)
      · intro h hc
        simpa using fun hp => h d hc ⟨hp, rfl⟩
    simp only [Undoubled, Option.toList_some, List.singleton_append, pair_infix_cons_cons, not_or,
      hd]
    exact ⟨fun h => ⟨fun c hc => (h c hc).1, fun c hc => (h c hc).2⟩,
      fun h c hc => ⟨h.1 c hc, h.2 c hc⟩⟩

def Nests (depth : Nat) (rest : List Char) : Prop :=
  (∀ read, read <+: rest → read.count ')' ≤ depth + read.count '(') ∧
    depth + rest.count '(' = rest.count ')'

theorem forall_prefix_cons {P : List Char → Prop} {c : Char} {rest : List Char} :
    (∀ read, read <+: c :: rest → P read) ↔ P [] ∧ ∀ read, read <+: rest → P (c :: read) := by
  simp only [List.prefix_cons_iff, or_imp, forall_and, forall_eq, and_congr_right_iff]
  intro _
  constructor
  · intro h read hread
    exact h _ ⟨read, rfl, hread⟩
  · rintro h _ ⟨read, rfl, hread⟩
    exact h read hread

theorem nests_nil (depth : Nat) : Nests depth [] ↔ depth = 0 := by
  simp [Nests]

theorem nests_opening (depth : Nat) (rest : List Char) :
    Nests depth ('(' :: rest) ↔ Nests (depth + 1) rest := by
  simp [Nests, forall_prefix_cons, Nat.add_assoc, Nat.add_comm 1]

theorem nests_closing (depth : Nat) (rest : List Char) :
    Nests depth (')' :: rest) ↔ depth ≠ 0 ∧ Nests (depth - 1) rest := by
  obtain _ | depth := depth
  · -- the closing parenthesis alone is one too many
    simp only [Nests, forall_prefix_cons, ne_eq, not_true_eq_false, false_and, iff_false]
    rintro ⟨⟨-, h⟩, -⟩
    simpa using h [] List.nil_prefix
  · simp [Nests, forall_prefix_cons, Nat.add_right_comm]

theorem nests_other {c : Char} (ho : c ≠ '(') (hc : c ≠ ')') (depth : Nat) (rest : List Char) :
    Nests depth (c :: rest) ↔ Nests depth rest := by
  simp [Nests, forall_prefix_cons, ho, hc]

/-- The pass carries what the rules still ask: each character is checked once, against the one
before it and the parentheses open. -/
theorem scan_iff (previous : Option Char) (depth : Nat) (rest : List Char) :
    scan previous depth rest = true ↔
      (∀ c ∈ rest, isAllowed c = true) ∧ Undoubled previous rest ∧ Nests depth rest := by
  induction rest generalizing previous depth with
  | nil => simp [scan, undoubled_nil, nests_nil]
  | cons c rest ih =>
    rw [List.forall_mem_cons, undoubled_cons, scan]
    by_cases ho : c = '('
    · subst ho
      simp [ih, nests_opening, and_assoc, and_left_comm]
    · by_cases hc : c = ')'
      · subst hc
        simp [ih, nests_closing, and_assoc, and_left_comm]
      · simp [ih, nests_other ho hc, ho, hc, and_assoc, and_left_comm]

theorem isAllowed_of_scan {previous : Option Char} {depth : Nat} {rest : List Char}
    (h : scan previous depth rest = true) : ∀ c ∈ rest, isAllowed c = true :=
  ((scan_iff previous depth rest).mp h).1

theorem isValid_iff_wellFormed :
    (∀ c, isOperand c = true ↔ 'a' ≤ c ∧ c ≤ 'z' ∨ '0' ≤ c ∧ c ≤ '9') ∧
      ∀ e : String, isValid e = true ↔ WellFormed e.toList := by
  refine ⟨isOperand_iff, ?_⟩
  intro e
  rw [isValid_iff, scan_iff]
  simp only [isAllowed_iff]
  constructor
  · rintro ⟨⟨c, hc, hfirst⟩, halphabet, hdouble, hbalance, hclosed⟩
    refine ⟨?_, halphabet, ?_, hdouble '*' (.inl rfl), hdouble '|' (.inr rfl), ?_, ?_⟩
    · rintro hnil
      simp [hnil] at hc
    · intro d hd
      obtain rfl := Option.some.inj (hc.symm.trans hd)
      exact hfirst
    · simpa using hbalance
    · simpa using hclosed
  · intro h
    obtain ⟨c, hc⟩ := Option.isSome_iff_exists.mp (List.isSome_head?.mpr h.nonempty)
    refine ⟨⟨c, hc, h.first c hc⟩, h.alphabet, ?_, ?_, ?_⟩
    · rintro d (rfl | rfl)
      · exact h.no_double_star
      · exact h.no_double_bar
    · simpa using h.balance
    · simpa using h.closed

end RegexNfa.Expression

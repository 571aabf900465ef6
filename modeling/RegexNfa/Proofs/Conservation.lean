import RegexNfa.Proofs.Balance
import RegexNfa.Proofs.Translation

namespace RegexNfa

def Token.symbol? : Token → Option Char
  | .symbol c => some c
  | .operator _ => none

namespace Postfix

theorem symbols_pending (pending : List Pending) :
    (pending.filterMap Pending.token?).filterMap Token.symbol? = [] := by
  rw [List.filterMap_filterMap, List.filterMap_eq_nil_iff]
  intro x _
  cases x <;> rfl

theorem symbols_ofLexemes (lexemes : List Lexeme) (pending : List Pending) :
    (ofLexemes pending lexemes).filterMap Token.symbol? =
      (lexemes.filterMap Lexeme.token?).filterMap Token.symbol? := by
  induction lexemes generalizing pending with
  | nil => exact symbols_pending pending
  | cons lexeme rest ih =>
    cases lexeme with
    | operand c => simp [ofLexemes, Lexeme.token?, Token.symbol?, ih]
    | opening => simp [ofLexemes, List.filterMap_cons, Lexeme.token?, ih]
    | closing =>
      simp [ofLexemes, released, List.filterMap_cons, Lexeme.token?, symbols_pending, ih]
    | operator o =>
      simp [ofLexemes, released, List.filterMap_cons, Lexeme.token?, Token.symbol?, symbols_pending,
        ih]

end Postfix

namespace Lexeme

theorem juxtaposed_iff (c d : Char) :
    juxtaposed c d = true ↔ c ∉ ['(', '|'] ∧ d ∉ ['*', '|', ')'] := by
  simp [juxtaposed, and_assoc]

def joins (s : List Char) : Nat := (s.zip s.tail).countP fun p => juxtaposed p.1 p.2

theorem joins_cons_cons (c d : Char) (rest : List Char) :
    joins (c :: d :: rest) = (if juxtaposed c d then 1 else 0) + joins (d :: rest) := by
  simp only [joins, List.tail_cons, List.zip_cons_cons, List.countP_cons]
  exact Nat.add_comm _ _

theorem tokens_cons_cons (c d : Char) (rest : List Char) :
    (ofChars (c :: d :: rest)).filterMap token? =
      (ofChar c).token?.toList ++
        (List.replicate (if juxtaposed c d then 1 else 0) (.operator .concat) ++
          (ofChars (d :: rest)).filterMap token?) := by
  have hconcat : (Lexeme.operator .concat).token? = some (.operator .concat) := rfl
  rw [ofChars_cons_cons, List.filterMap_append]
  cases h : (ofChar c).token? <;> cases juxtaposed c d <;>
    simp [h, hconcat]

theorem tokens_perm (s : List Char) :
    ((ofChars s).filterMap token?).Perm
      (s.filterMap (fun c => (ofChar c).token?) ++
        List.replicate (joins s) (.operator .concat)) := by
  induction s with
  | nil => exact .nil
  | cons c rest ih =>
    cases rest with
    | nil => simp [ofChars, joins, List.filterMap_cons]
    | cons d rest =>
      have hsplit : (c :: d :: rest).filterMap (fun c => (ofChar c).token?) =
          (ofChar c).token?.toList ++ (d :: rest).filterMap fun c => (ofChar c).token? := by
        cases h : (ofChar c).token? <;> simp [List.filterMap_cons, h]
      rw [tokens_cons_cons, joins_cons_cons, hsplit, List.replicate_add, List.append_assoc]
      exact ((ih.append_left _).trans (List.perm_append_comm_assoc _ _ _)).append_left _

theorem symbol?_ofChar (c : Char) :
    (ofChar c).token?.toList.filterMap Token.symbol? =
      [c].filter fun c => c ∉ ['(', ')', '*', '|'] := by
  unfold ofChar
  split_ifs <;> simp_all [token?, Token.symbol?]

theorem symbols_tokens (s : List Char) :
    ((ofChars s).filterMap token?).filterMap Token.symbol? =
      s.filter fun c => c ∉ ['(', ')', '*', '|'] := by
  induction s with
  | nil => rfl
  | cons c rest ih =>
    rw [← List.singleton_append, List.filter_append, ← symbol?_ofChar, ← ih]
    cases rest with
    | nil => cases h : (ofChar c).token? <;> simp [ofChars, List.filterMap_cons, h]
    | cons d rest =>
      rw [List.singleton_append, tokens_cons_cons, List.filterMap_append, List.filterMap_append]
      simp [Token.symbol?]

theorem token?_ofChar_eq_operator (c : Char) (o : Operator) :
    (ofChar c).token? = some (.operator o) ↔ o ≠ .concat ∧ c = o.mark := by
  unfold ofChar
  cases o <;> split_ifs <;> simp_all [token?, Operator.mark]

end Lexeme

namespace Postfix

theorem count_operator (s : List Char) (o : Operator) :
    (ofChars s).count (.operator o) = if o = .concat then Lexeme.joins s else s.count o.mark := by
  rw [((ofChars_perm s).trans (Lexeme.tokens_perm s)).count_eq, List.count_append,
    List.count_filterMap, List.count_replicate, List.count_eq_countP]
  by_cases h : o = .concat
  · subst h
    have hnone : s.countP (fun c => (Lexeme.ofChar c).token? == some (.operator .concat)) = 0 := by
      simp [List.countP_eq_zero, Lexeme.token?_ofChar_eq_operator]
    simp [hnone]
  · have hmark : ∀ c, ((Lexeme.ofChar c).token? == some (.operator o)) = (c == o.mark) := by
      intro c
      rw [Bool.eq_iff_iff, beq_iff_eq, beq_iff_eq, Lexeme.token?_ofChar_eq_operator]
      exact and_iff_right h
    simp [hmark, h, Ne.symm h]

theorem symbols_ofChars (s : List Char) :
    (ofChars s).filterMap Token.symbol? = s.filter fun c => c ∉ ['(', ')', '*', '|'] :=
  (symbols_ofLexemes _ _).trans (Lexeme.symbols_tokens s)

theorem mark_of_mem {s : List Char} {t : Token} (h : t ∈ ofChars s) :
    t.mark ≠ '(' ∧ t.mark ≠ ')' := by
  cases t with
  | operator o => cases o <;> decide
  | symbol c =>
    have hc : c ∈ (ofChars s).filterMap Token.symbol? := List.mem_filterMap.mpr ⟨_, h, rfl⟩
    rw [symbols_ofChars, List.mem_filter] at hc
    simp_all [Token.mark]

theorem ofExpression_conserves (s : String) :
    (ofExpression s).filterMap Token.symbol? =
      s.toList.filter (fun c => c ∉ ['(', ')', '*', '|']) ∧
    (ofExpression s).count (.operator .star) = s.toList.count '*' ∧
    (ofExpression s).count (.operator .union) = s.toList.count '|' ∧
    (ofExpression s).count (.operator .concat) =
      (s.toList.zip s.toList.tail).countP (fun p => p.1 ∉ ['(', '|'] ∧ p.2 ∉ ['*', '|', ')']) ∧
    ∀ t ∈ ofExpression s, t.mark ≠ '(' ∧ t.mark ≠ ')' := by
  refine ⟨symbols_ofChars s.toList, count_operator s.toList .star, count_operator s.toList .union,
    ?_, fun t => mark_of_mem⟩
  rw [ofExpression, count_operator, if_pos rfl, Lexeme.joins]
  refine List.countP_congr fun p _ => ?_
  rw [Lexeme.juxtaposed_iff, decide_eq_true_eq]

example : ofExpression "a)b(*" =
    [.symbol 'a', .symbol 'b', .operator .concat, .operator .star, .operator .concat] := rfl

end Postfix

end RegexNfa

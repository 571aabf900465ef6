import RegexNfa.Expression.Grammar

/-!
The postfix form of a derived expression is the postorder of its tree, and evaluating it gives the
tree back. A level of the grammar is read above any pending stack on whose top nothing waits that
the level would release, and before any lexemes that release all that the level itself leaves
waiting.
-/

namespace RegexNfa

namespace Lexeme

def link (s t : List Char) : List Lexeme :=
  match s.getLast?, t.head? with
  | some c, some d => if juxtaposed c d then [.operator .concat] else []
  | _, _ => []

theorem ofChars_append (s t : List Char) : ofChars (s ++ t) = ofChars s ++ link s t ++ ofChars t := by
  induction s with
  | nil => simp [ofChars, link]
  | cons c s ih =>
    cases s with
    | nil =>
      cases t with
      | nil => simp [ofChars, link]
      | cons d t => by_cases h : juxtaposed c d <;> simp [ofChars, link, h]
    | cons d s =>
      have hl : link (c :: d :: s) t = link (d :: s) t := by simp [link]
      rw [List.cons_append, List.cons_append, ofChars_cons_cons, ofChars_cons_cons, hl,
        ← List.cons_append, ih]
      simp only [List.append_assoc]

theorem link_mark_left {c : Char} (hc : c = '(' ∨ c = '|') (t : List Char) : link [c] t = [] := by
  cases t <;> rcases hc with rfl | rfl <;> simp [link, juxtaposed]

theorem link_mark_right {d : Char} (hd : d = '*' ∨ d = '|' ∨ d = ')') (s t : List Char) :
    link s (d :: t) = [] := by
  cases h : s.getLast? <;> rcases hd with rfl | rfl | rfl <;> simp [link, juxtaposed, h]

theorem link_nil (s : List Char) : link s [] = [] := by
  cases h : s.getLast? <;> simp [link, h]

end Lexeme

namespace Expression

structure Enclosed (s : List Char) : Prop where
  first : ∃ c, s.head? = some c ∧ ¬ (c = '*' ∨ c = '|' ∨ c = ')')
  last : ∃ c, s.getLast? = some c ∧ ¬ (c = '(' ∨ c = '|')

theorem Enclosed.append {s t : List Char} (hs : Enclosed s) (ht : Enclosed t) (m : List Char) :
    Enclosed (s ++ m ++ t) := by
  obtain ⟨⟨c, hc, hc'⟩, -⟩ := hs
  obtain ⟨-, ⟨d, hd, hd'⟩⟩ := ht
  refine ⟨⟨c, ?_, hc'⟩, ⟨d, ?_, hd'⟩⟩
  · simp [List.head?_append, hc]
  · simp [List.getLast?_append, hd]

theorem Enclosed.link {s t : List Char} (hs : Enclosed s) (ht : Enclosed t) :
    Lexeme.link s t = [.operator .concat] := by
  obtain ⟨-, ⟨c, hc, hc'⟩⟩ := hs
  obtain ⟨⟨d, hd, hd'⟩, -⟩ := ht
  have hj : Lexeme.juxtaposed c d = true := by simp_all [Lexeme.juxtaposed]
  simp [Lexeme.link, hc, hd, hj]

theorem Derives.enclosed {level : Level} {s : List Char} {r : Regex}
    (h : Derives .general level s r) : Enclosed s := by
  induction h with
  | @symbol c hc =>
    obtain ⟨ho, hcl, hs, hu⟩ : c ≠ '(' ∧ c ≠ ')' ∧ c ≠ '*' ∧ c ≠ '|' := hc
    exact ⟨⟨c, rfl, by simp [hcl, hs, hu]⟩, ⟨c, rfl, by simp [ho, hu]⟩⟩
  | @group s r h ih =>
    refine ⟨⟨'(', rfl, by simp⟩, ⟨')', ?_, by simp⟩⟩
    rw [← List.cons_append]
    exact List.getLast?_concat
  | atom _ ih => exact ih
  | star _ ih =>
    obtain ⟨⟨c, hc, hc'⟩, -⟩ := ih
    exact ⟨⟨c, by simp [List.head?_append, hc], hc'⟩, ⟨'*', List.getLast?_concat, by simp⟩⟩
  | item _ ih => exact ih
  | concat _ _ ihs iht => simpa using ihs.append iht []
  | sequence _ ih => exact ih
  | union _ _ ihs iht => simpa using ihs.append iht ['|']

theorem Dialect.general_of_strict {c : Char} (h : strict.isSymbol c) : general.isSymbol c := by
  change 'a' ≤ c ∧ c ≤ 'z' ∨ '0' ≤ c ∧ c ≤ '9' at h
  refine ⟨?_, ?_, ?_, ?_⟩ <;> rintro rfl <;> exact absurd h (by decide)

theorem Derives.general {level : Level} {s : List Char} {r : Regex}
    (h : Derives .strict level s r) : Derives .general level s r := by
  induction h with
  | symbol hc => exact .symbol (Dialect.general_of_strict hc)
  | group _ ih => exact .group ih
  | atom _ ih => exact .atom ih
  | star _ ih => exact .star (.atom ih)
  | item _ ih => exact .item ih
  | concat _ _ ihs iht => exact .concat ihs iht
  | sequence _ ih => exact .sequence ih
  | union _ _ ihs iht => exact .union ihs iht

end Expression

namespace Postfix

open Expression

def strength : Level → Nat
  | .alternation => 0
  | .sequence => 1
  | .item => 2
  | .atom => 3

/-- No operator on top of the pending stack binds as tightly as `n`. -/
def Weaker (n : Nat) (pending : List Pending) : Prop :=
  ∀ o, pending.head? = some (.operator o) → o.precedence < n

/-- The next lexeme, if any, releases all pending operators that bind as tightly as `n`. -/
def Releases (n : Nat) : List Lexeme → Prop
  | [] => True
  | .operator o :: _ => o.precedence ≤ n
  | .closing :: _ => True
  | _ => False

theorem Weaker.mono {m n : Nat} {pending : List Pending} (h : Weaker m pending) (hmn : m ≤ n) :
    Weaker n pending := fun o ho => Nat.lt_of_lt_of_le (h o ho) hmn

theorem Releases.mono {m n : Nat} {next : List Lexeme} (h : Releases m next) (hmn : m ≤ n) :
    Releases n next := by
  match next with
  | [] | .closing :: _ => trivial
  | .operator o :: _ => exact Nat.le_trans h hmn
  | .operand _ :: _ | .opening :: _ => exact h

theorem weaker_operator {o : Operator} {n : Nat} (h : o.precedence < n) (pending : List Pending) :
    Weaker n (.operator o :: pending) := by
  intro p hp
  simp only [List.head?_cons, Option.some.injEq, Pending.operator.injEq] at hp
  exact hp ▸ h

theorem weaker_opening (n : Nat) (pending : List Pending) : Weaker n (.opening :: pending) := by
  intro o ho
  simp at ho

theorem ofLexemes_operator {o : Operator} {pending : List Pending}
    (h : Weaker o.precedence pending) (next : List Lexeme) :
    ofLexemes pending (.operator o :: next) = ofLexemes (.operator o :: pending) next := by
  cases pending with
  | nil => simp [ofLexemes, released]
  | cons top below =>
    have ht : top.yieldsTo o = false := by
      cases top with
      | opening => rfl
      | operator p =>
        have := h p rfl
        simp only [Pending.yieldsTo, decide_eq_false_iff_not]
        omega
    simp [ofLexemes, released, ht]

theorem ofLexemes_released {o : Operator} {next : List Lexeme} (h : Releases o.precedence next)
    (pending : List Pending) :
    ofLexemes (.operator o :: pending) next = .operator o :: ofLexemes pending next := by
  match next with
  | [] => simp [ofLexemes, Pending.token?]
  | .closing :: _ =>
    have hp : (Pending.operator o).isOperator = true := rfl
    simp [ofLexemes, released, hp, Pending.token?]
  | .operator p :: _ =>
    have hp : (Pending.operator o).yieldsTo p = true := decide_eq_true h
    simp [ofLexemes, released, hp, Pending.token?]
  | .operand _ :: _ | .opening :: _ => exact absurd h (by simp [Releases])

theorem ofLexemes_append_of_derives {level : Level} {s : List Char} {r : Regex}
    (h : Derives .general level s r) (pending : List Pending) (next : List Lexeme)
    (hp : Weaker (strength level) pending) (hn : Releases (strength level) next) :
    ofLexemes pending (Lexeme.ofChars s ++ next) = r.postorder ++ ofLexemes pending next := by
  induction h generalizing pending next with
  | @symbol c hc =>
    obtain ⟨h1, h2, h3, h4⟩ : c ≠ '(' ∧ c ≠ ')' ∧ c ≠ '*' ∧ c ≠ '|' := hc
    simp [Lexeme.ofChars, Lexeme.ofChar, h1, h2, h3, h4, ofLexemes, Regex.postorder]
  | @group s r h ih =>
    have hs : Lexeme.ofChars ('(' :: (s ++ [')'])) = .opening :: Lexeme.ofChars s ++ [.closing] := by
      rw [← List.singleton_append, Lexeme.ofChars_append, Lexeme.ofChars_append,
        Lexeme.link_mark_left (.inl rfl), Lexeme.link_mark_right (.inr (.inr rfl))]
      simp [Lexeme.ofChars, Lexeme.ofChar]
    rw [hs]
    simp only [List.cons_append, List.append_assoc, List.nil_append, ofLexemes]
    rw [ih (.opening :: pending) (.closing :: next) (weaker_opening _ _) trivial]
    simp [ofLexemes, released, Pending.isOperator]
  | atom _ ih => exact ih pending next (hp.mono (by decide)) (hn.mono (by decide))
  | @star s r h ih =>
    have hs : Lexeme.ofChars (s ++ ['*']) = Lexeme.ofChars s ++ [.operator .star] := by
      rw [Lexeme.ofChars_append, Lexeme.link_mark_right (.inl rfl)]
      simp [Lexeme.ofChars, Lexeme.ofChar]
    rw [hs, List.append_assoc, List.singleton_append,
      ih pending (.operator .star :: next) hp (Nat.le_refl _),
      ofLexemes_operator (o := .star) hp, ofLexemes_released (o := .star) hn]
    simp [Regex.postorder]
  | item _ ih => exact ih pending next (hp.mono (by decide)) (hn.mono (by decide))
  | @concat s t q r hs ht ihs iht =>
    rw [Lexeme.ofChars_append, hs.enclosed.link ht.enclosed]
    simp only [List.append_assoc, List.cons_append, List.nil_append]
    rw [ihs pending _ hp (Nat.le_refl _), ofLexemes_operator (o := .concat) hp,
      iht (.operator .concat :: pending) next (weaker_operator (by decide) _) (hn.mono (by decide)),
      ofLexemes_released (o := .concat) hn]
    simp [Regex.postorder]
  | sequence _ ih => exact ih pending next (hp.mono (by decide)) (hn.mono (by decide))
  | @union s t q r hs ht ihs iht =>
    have ho : Lexeme.ofChars (s ++ '|' :: t) =
        Lexeme.ofChars s ++ .operator .union :: Lexeme.ofChars t := by
      rw [← List.singleton_append, Lexeme.ofChars_append, Lexeme.ofChars_append,
        List.singleton_append, Lexeme.link_mark_left (.inr rfl),
        Lexeme.link_mark_right (.inr (.inl rfl))]
      simp [Lexeme.ofChars, Lexeme.ofChar]
    rw [ho, List.append_assoc, List.cons_append,
      ihs pending _ hp (Nat.le_refl _), ofLexemes_operator (o := .union) hp,
      iht (.operator .union :: pending) next (weaker_operator (by decide) _) (hn.mono (by decide)),
      ofLexemes_released (o := .union) hn]
    simp [Regex.postorder]

theorem ofChars_of_derives {level : Level} {s : List Char} {r : Regex}
    (h : Derives .general level s r) : ofChars s = r.postorder := by
  have hp : Weaker (strength level) [] := fun o ho => by simp at ho
  simpa [ofChars, ofLexemes] using ofLexemes_append_of_derives h [] [] hp trivial

end Postfix

namespace Regex

open Expression

def EpsilonFree : Regex → Prop
  | .epsilon => False
  | .symbol _ => True
  | .concat r s => r.EpsilonFree ∧ s.EpsilonFree
  | .union r s => r.EpsilonFree ∧ s.EpsilonFree
  | .star r => r.EpsilonFree

theorem evaluate_postorder {r : Regex} (h : r.EpsilonFree) (stack : List Regex) (position : Nat)
    (rest : List Token) :
    evaluate stack position (r.postorder ++ rest) =
      evaluate (r :: stack) (position + r.postorder.length) rest := by
  induction r generalizing stack position rest with
  | epsilon => exact h.elim
  | symbol c => rfl
  | concat r s ihr ihs =>
    simp only [postorder, List.append_assoc]
    rw [ihr h.1, ihs h.2]
    simp [evaluate, push?, Nat.add_assoc]
  | union r s ihr ihs =>
    simp only [postorder, List.append_assoc]
    rw [ihr h.1, ihs h.2]
    simp [evaluate, push?, Nat.add_assoc]
  | star r ih =>
    simp only [postorder, List.append_assoc]
    rw [ih h]
    simp [evaluate, push?, Nat.add_assoc]

theorem ofPostfix_postorder {r : Regex} (h : r.EpsilonFree) : ofPostfix r.postorder = .ok r := by
  have he := evaluate_postorder h [] 0 []
  rw [List.append_nil] at he
  simp [ofPostfix, he, evaluate]

theorem epsilonFree_of_derives {d : Dialect} {level : Level} {s : List Char} {r : Regex}
    (h : Derives d level s r) : r.EpsilonFree := by
  induction h with
  | symbol _ => trivial
  | group _ ih | atom _ ih | item _ ih | sequence _ ih | star _ ih => exact ih
  | concat _ _ ihs iht | union _ _ ihs iht => exact ⟨ihs, iht⟩

theorem ofPostfix_of_derives {level : Level} {s : List Char} {r : Regex}
    (h : Derives .general level s r) : ofPostfix (Postfix.ofChars s) = .ok r := by
  rw [Postfix.ofChars_of_derives h]
  exact ofPostfix_postorder (epsilonFree_of_derives h)

theorem eq_of_derives {level other : Level} {s : List Char} {q r : Regex}
    (hr : Derives .general level s r) (hq : Derives .general other s q) : q = r := by
  have h := ofPostfix_of_derives hq
  rw [ofPostfix_of_derives hr] at h
  exact (Except.ok.inj h).symm

theorem ofExpression_eq_postorder {level : Level} {s : String} {r : Regex}
    (h : Derives .general level s.toList r) :
    Postfix.ofExpression s = r.postorder ∧ ofPostfix (Postfix.ofExpression s) = .ok r ∧
      ∀ (other : Level) (q : Regex), Derives .general other s.toList q → q = r :=
  ⟨Postfix.ofChars_of_derives h, ofPostfix_of_derives h, fun _ _ => eq_of_derives h⟩

theorem ofExpression_eq_postorder_grouped :
    Derives .general .alternation "((é|b))*(c)d".toList
        (.concat (.concat (.star (.union (.symbol 'é') (.symbol 'b'))) (.symbol 'c')) (.symbol 'd')) ∧
      Postfix.ofExpression "((é|b))*(c)d" =
        [.symbol 'é', .symbol 'b', .operator .union, .operator .star, .symbol 'c',
          .operator .concat, .symbol 'd', .operator .concat] ∧
      ofPostfix (Postfix.ofExpression "((é|b))*(c)d") =
        .ok (.concat (.concat (.star (.union (.symbol 'é') (.symbol 'b'))) (.symbol 'c'))
          (.symbol 'd')) ∧
      ∀ (other : Level) (q : Regex), Derives .general other "((é|b))*(c)d".toList q →
        q = .concat (.concat (.star (.union (.symbol 'é') (.symbol 'b'))) (.symbol 'c'))
          (.symbol 'd') := by
  have hatom (c : Char) (hc : c ≠ '(' ∧ c ≠ ')' ∧ c ≠ '*' ∧ c ≠ '|') :
      Derives .general .item [c] (.symbol c) := .atom (.symbol hc)
  have hunion : Derives .general .alternation "é|b".toList (.union (.symbol 'é') (.symbol 'b')) :=
    .union (s := ['é']) (.sequence (.item (hatom 'é' (by decide)))) (.item (hatom 'b' (by decide)))
  have hstar : Derives .general .item "((é|b))*".toList
      (.star (.union (.symbol 'é') (.symbol 'b'))) :=
    .star (s := "((é|b))".toList) (.atom (.group (s := "(é|b)".toList)
      (.sequence (.item (.atom (.group (s := "é|b".toList) hunion))))))
  have hc : Derives .general .item "(c)".toList (.symbol 'c') :=
    .atom (.group (s := ['c']) (.sequence (.item (hatom 'c' (by decide)))))
  have h : Derives .general .alternation "((é|b))*(c)d".toList _ :=
    .sequence (.concat (s := "((é|b))*(c)".toList)
      (.concat (s := "((é|b))*".toList) (.item hstar) hc) (hatom 'd' (by decide)))
  exact ⟨h, ofExpression_eq_postorder h⟩

end Regex

end RegexNfa

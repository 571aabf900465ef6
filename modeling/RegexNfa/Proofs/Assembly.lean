import RegexNfa.Compile
import RegexNfa.Fragment.Postfix
import RegexNfa.Proofs.Balance
import RegexNfa.Proofs.Translation

/-!
What a sequence of tokens builds, whatever sequence it is. The balance of the tokens before an
operator is the number of operands that it finds, so the balance decides which operator, if any,
lacks one and how many fragments are left. A single fragment is composed over the one tree of which
the tokens are the postorder.
-/

namespace RegexNfa

def Operator.arity : Operator → Nat
  | .concat => 2
  | .union => 2
  | .star => 1

def Lacks (height : Nat) (tokens : List Token) (position : Nat) (o : Operator) : Prop :=
  tokens[position]? = some (.operator o) ∧
    height + balance (tokens.take position) < o.arity

structure FirstLack (height : Nat) (tokens : List Token) (position : Nat) (o : Operator) :
    Prop where
  lacks : Lacks height tokens position o
  first : ∀ p < position, ∀ o, ¬ Lacks height tokens p o

section Lacks

variable {height next position : Nat} {t : Token} {tokens : List Token} {o : Operator}

theorem not_lacks_nil : ¬ Lacks height [] position o := by
  rintro ⟨h, -⟩
  simp at h

theorem lacks_zero : Lacks height (t :: tokens) 0 o ↔ t = .operator o ∧ height < o.arity := by
  simp [Lacks, balance]

theorem lacks_succ (h : (next : Int) = height + t.balance) :
    Lacks height (t :: tokens) (position + 1) o ↔ Lacks next tokens position o := by
  rw [Lacks, Lacks, List.getElem?_cons_succ, List.take_succ_cons, balance_cons, h, Int.add_assoc]

theorem FirstLack.succ (h : (next : Int) = height + t.balance)
    (ht : ∀ o, ¬ Lacks height (t :: tokens) 0 o) (hl : FirstLack next tokens position o) :
    FirstLack height (t :: tokens) (position + 1) o := by
  refine ⟨(lacks_succ h).mpr hl.lacks, ?_⟩
  intro p hp o
  cases p with
  | zero => exact ht o
  | succ p =>
    rw [lacks_succ h]
    exact hl.first p (Nat.lt_of_succ_lt_succ hp) o

end Lacks

namespace Regex

theorem push?_eq_none_iff {o : Operator} {stack : List Regex} :
    push? (.operator o) stack = none ↔ stack.length < o.arity := by
  match o, stack with
  | .star, [] => simp [push?, Operator.arity]
  | .star, r :: stack => simp [push?, Operator.arity]
  | .concat, [] | .union, [] => simp [push?, Operator.arity]
  | .concat, [r] | .union, [r] => simp [push?, Operator.arity]
  | .concat, s :: r :: stack | .union, s :: r :: stack => simp [push?, Operator.arity]

theorem evaluate_of_push? {t : Token} {stack next : List Regex} (h : push? t stack = some next)
    (position : Nat) (rest : List Token) :
    evaluate stack position (t :: rest) = evaluate next (position + 1) rest := by
  cases t with
  | symbol c =>
    cases h
    rfl
  | operator o => rw [evaluate, h]

theorem evaluate_cases (tokens : List Token) (stack : List Regex) (position : Nat) :
    (∃ result, evaluate stack position tokens = .ok result ∧
      ∀ p o, ¬ Lacks stack.length tokens p o) ∨
    ∃ p o, FirstLack stack.length tokens p o ∧
      evaluate stack position tokens = .error (.missingOperand o (position + p)) := by
  -- what the earlier tokens leave is the height for the later ones
  induction tokens generalizing stack position with
  | nil => exact .inl ⟨stack, rfl, fun _ _ => not_lacks_nil⟩
  | cons t tokens ih =>
    cases hp : push? t stack with
    | none =>
      cases t with
      | symbol c => cases hp
      | operator o =>
        have hshort : stack.length < o.arity := push?_eq_none_iff.mp hp
        refine .inr ⟨0, o, ⟨lacks_zero.mpr ⟨rfl, hshort⟩, ?_⟩, ?_⟩
        · intro p h
          exact absurd h (Nat.not_lt_zero p)
        · simp [evaluate, hp]
    | some next =>
      have hlength := push?_length hp
      have hfed : ∀ o, ¬ Lacks stack.length (t :: tokens) 0 o := by
        intro o h
        obtain ⟨rfl, hshort⟩ := lacks_zero.mp h
        rw [push?_eq_none_iff.mpr hshort] at hp
        cases hp
      rw [evaluate_of_push? hp]
      obtain ⟨result, he, hn⟩ | ⟨p, o, hl, he⟩ := ih next (position + 1)
      · refine .inl ⟨result, he, ?_⟩
        intro p o
        cases p with
        | zero => exact hfed o
        | succ p =>
          rw [lacks_succ hlength]
          exact hn p o
      · refine .inr ⟨p + 1, o, hl.succ hlength hfed, ?_⟩
        rw [he, Nat.add_assoc, Nat.add_comm 1 p]

theorem postorder_push? {t : Token} {stack next : List Regex} (h : push? t stack = some next) :
    next.reverse.flatMap postorder = stack.reverse.flatMap postorder ++ [t] := by
  cases pushes_of_push? h <;> simp [postorder]

theorem epsilonFree_push? {t : Token} {stack next : List Regex} (h : push? t stack = some next)
    (hs : ∀ r ∈ stack, r.EpsilonFree) : ∀ r ∈ next, r.EpsilonFree := by
  cases pushes_of_push? h <;> simp_all [EpsilonFree]

theorem postorder_evaluate {tokens : List Token} {stack result : List Regex} {position : Nat}
    (h : evaluate stack position tokens = .ok result) (hs : ∀ r ∈ stack, r.EpsilonFree) :
    result.reverse.flatMap postorder = stack.reverse.flatMap postorder ++ tokens ∧
      ∀ r ∈ result, r.EpsilonFree := by
  fun_induction evaluate stack position tokens with
  | case1 stack position =>
    cases h
    exact ⟨(List.append_nil _).symm, hs⟩
  | case2 stack position c rest ih =>
    have hp : push? (.symbol c) stack = some (.symbol c :: stack) := rfl
    obtain ⟨hpost, hfree⟩ := ih h (epsilonFree_push? hp hs)
    exact ⟨by rw [hpost, postorder_push? hp, List.append_assoc, List.singleton_append], hfree⟩
  | case3 stack position o rest next hp ih =>
    obtain ⟨hpost, hfree⟩ := ih h (epsilonFree_push? hp hs)
    exact ⟨by rw [hpost, postorder_push? hp, List.append_assoc, List.singleton_append], hfree⟩
  | case4 => cases h

end Regex

namespace Fragment

theorem push?_map (t : Token) (stack : List Regex) :
    push? t (stack.map Regex.toFragment) =
      (Regex.push? t stack).map (·.map Regex.toFragment) := by
  match t, stack with
  | .symbol c, stack => rfl
  | .operator .star, [] | .operator .star, r :: stack => rfl
  | .operator .concat, [] | .operator .union, [] => rfl
  | .operator .concat, [r] | .operator .union, [r] => rfl
  | .operator .concat, s :: r :: stack | .operator .union, s :: r :: stack => rfl

theorem compose_map (tokens : List Token) (stack : List Regex) (position : Nat) :
    compose (stack.map Regex.toFragment) position tokens =
      (Regex.evaluate stack position tokens).map (·.map Regex.toFragment) := by
  induction tokens generalizing stack position with
  | nil => rfl
  | cons t tokens ih =>
    cases t with
    | symbol c => exact ih (.symbol c :: stack) (position + 1)
    | operator o =>
      rw [compose, push?_map, Regex.evaluate]
      cases Regex.push? (.operator o) stack with
      | none => rfl
      | some next => exact ih next (position + 1)

end Fragment

theorem build_eq_ofPostfix (tokens : List Token) : build tokens = Fragment.ofPostfix tokens := by
  have h := Fragment.compose_map tokens [] 0
  rw [List.map_nil] at h
  rw [build, Regex.ofPostfix, Fragment.ofPostfix, h]
  cases Regex.evaluate [] 0 tokens with
  | error e => rfl
  | ok stack =>
    obtain _ | ⟨r, _ | ⟨s, stack⟩⟩ := stack
    · rfl
    · rfl
    · simp [Except.map]

theorem build_of_lacks {tokens : List Token} {position : Nat} {o : Operator}
    (h : Lacks 0 tokens position o) :
    ∃ p o, FirstLack 0 tokens p o ∧ build tokens = .error (.missingOperand o p) := by
  obtain ⟨-, -, hn⟩ | ⟨p, o, hl, he⟩ := Regex.evaluate_cases tokens [] 0
  · exact absurd h (hn position o)
  · refine ⟨p, o, hl, ?_⟩
    simp [build, Regex.ofPostfix, he]

theorem evaluate_of_not_lacks {tokens : List Token} (h : ∀ p o, ¬ Lacks 0 tokens p o) :
    ∃ stack, Regex.evaluate [] 0 tokens = .ok stack ∧ (stack.length : Int) = balance tokens := by
  obtain ⟨stack, he, -⟩ | ⟨p, o, hl, -⟩ := Regex.evaluate_cases tokens [] 0
  · refine ⟨stack, he, ?_⟩
    simpa using Regex.evaluate_length he
  · exact absurd hl.lacks (h p o)

theorem build_of_two_le {tokens : List Token} {n : Nat} (h : ∀ p o, ¬ Lacks 0 tokens p o)
    (hb : balance tokens = n) (hn : 2 ≤ n) : build tokens = .error (.unconsumedFragments n) := by
  obtain ⟨stack, he, hl⟩ := evaluate_of_not_lacks h
  obtain rfl : stack.length = n := by omega
  match stack with
  | [] | [r] => simp at hn
  | r :: s :: stack => simp [build, Regex.ofPostfix, he]

theorem build_of_lt_two {tokens : List Token} (h : ∀ p o, ¬ Lacks 0 tokens p o)
    (hb : balance tokens < 2) (hn : tokens ≠ []) :
    ∃ r : Regex, r.EpsilonFree ∧ r.postorder = tokens ∧
      (∀ q : Regex, q.EpsilonFree → q.postorder = tokens → q = r) ∧
        build tokens = .ok r.toFragment := by
  obtain ⟨stack, he, hl⟩ := evaluate_of_not_lacks h
  match stack with
  | [] => exact absurd rfl (Regex.evaluate_ne_nil he (.inr hn))
  | r :: s :: stack =>
    simp only [List.length_cons] at hl
    omega
  | [r] =>
    obtain ⟨hpost, hfree⟩ := Regex.postorder_evaluate he (by simp)
    have hr : Regex.ofPostfix tokens = .ok r := by simp [Regex.ofPostfix, he]
    refine ⟨r, hfree r (.head _), by simpa using hpost, ?_, ?_⟩
    · rintro q hq rfl
      rw [Regex.ofPostfix_postorder hq] at hr
      exact Except.ok.inj hr
    · simp [build, hr]

theorem build_of_balance (tokens : List Token) :
    build tokens = Fragment.ofPostfix tokens ∧
    (∀ position o, Lacks 0 tokens position o →
      ∃ p o, FirstLack 0 tokens p o ∧ build tokens = .error (.missingOperand o p)) ∧
    ((∀ position o, ¬ Lacks 0 tokens position o) →
      (∀ n : Nat, balance tokens = n → 2 ≤ n → build tokens = .error (.unconsumedFragments n)) ∧
      (tokens = [] → build tokens = .ok .epsilon) ∧
      (balance tokens < 2 → tokens ≠ [] →
        ∃ r : Regex, r.EpsilonFree ∧ r.postorder = tokens ∧
          (∀ q : Regex, q.EpsilonFree → q.postorder = tokens → q = r) ∧
            build tokens = .ok r.toFragment)) := by
  refine ⟨build_eq_ofPostfix tokens, fun _ _ => build_of_lacks, ?_⟩
  intro h
  refine ⟨fun _ => build_of_two_le h, ?_, build_of_lt_two h⟩
  rintro rfl
  rfl

theorem build_of_balance_leftover :
    (∀ p o, ¬ Lacks 0 [.symbol 'a', .symbol 'b', .operator .star] p o) ∧
      build [.symbol 'a', .symbol 'b', .operator .star] = .error (.unconsumedFragments 2) ∧
      Lacks 0 [.symbol 'a', .operator .union, .operator .star] 1 .union ∧
      ∃ p o, FirstLack 0 [.symbol 'a', .operator .union, .operator .star] p o ∧
        build [.symbol 'a', .operator .union, .operator .star] = .error (.missingOperand o p) := by
  have hfed : ∀ p o, ¬ Lacks 0 [.symbol 'a', .symbol 'b', .operator .star] p o := by
    rintro (_ | _ | _ | p) o ⟨ho, hshort⟩
    · cases ho
    · cases ho
    · cases ho
      exact absurd hshort (by decide)
    · cases ho
  have hlack : Lacks 0 [.symbol 'a', .operator .union, .operator .star] 1 .union :=
    ⟨rfl, by decide⟩
  obtain ⟨-, -, h⟩ := build_of_balance [.symbol 'a', .symbol 'b', .operator .star]
  obtain ⟨-, h', -⟩ := build_of_balance [.symbol 'a', .operator .union, .operator .star]
  exact ⟨hfed, (h hfed).1 2 rfl (by decide), hlack, h' _ _ hlack⟩

end RegexNfa

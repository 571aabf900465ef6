import RegexNfa.Postfix
import RegexNfa.Regex.Basic
import Mathlib.Data.List.Perm.Basic

namespace RegexNfa

def Token.balance : Token → Int
  | .symbol _ => 1
  | .operator .star => 0
  | .operator .concat => -1
  | .operator .union => -1

def Lexeme.token? : Lexeme → Option Token
  | .operand c => some (.symbol c)
  | .operator o => some (.operator o)
  | .opening => none
  | .closing => none

def balance : List Token → Int
  | [] => 0
  | t :: tokens => t.balance + balance tokens

theorem balance_cons (t : Token) (tokens : List Token) :
    balance (t :: tokens) = t.balance + balance tokens := rfl

theorem balance_append (l m : List Token) : balance (l ++ m) = balance l + balance m := by
  induction l with
  | nil => simp [balance]
  | cons t l ih =>
    rw [List.cons_append, balance_cons, balance_cons, ih]
    omega

theorem balance_perm {l m : List Token} (h : l.Perm m) : balance l = balance m := by
  induction h with
  | nil => rfl
  | cons t _ ih => rw [balance_cons, balance_cons, ih]
  | swap t u l =>
    simp only [balance_cons]
    omega
  | trans _ _ ih ih' => exact ih.trans ih'

namespace Regex

inductive Pushes : Token → List Regex → List Regex → Prop
  | symbol (c : Char) (stack : List Regex) : Pushes (.symbol c) stack (.symbol c :: stack)
  | star (r : Regex) (stack : List Regex) :
      Pushes (.operator .star) (r :: stack) (.star r :: stack)
  | concat (r s : Regex) (stack : List Regex) :
      Pushes (.operator .concat) (s :: r :: stack) (.concat r s :: stack)
  | union (r s : Regex) (stack : List Regex) :
      Pushes (.operator .union) (s :: r :: stack) (.union r s :: stack)

theorem pushes_of_push? {t : Token} {stack result : List Regex} (h : push? t stack = some result) :
    Pushes t stack result := by
  unfold push? at h
  split at h <;> cases h <;> constructor

theorem push?_length {t : Token} {stack result : List Regex} (h : push? t stack = some result) :
    (result.length : Int) = stack.length + t.balance := by
  cases pushes_of_push? h <;> simp only [Token.balance, List.length_cons] <;> omega

theorem push?_ne_nil {t : Token} {stack result : List Regex} (h : push? t stack = some result) :
    result ≠ [] := by
  cases pushes_of_push? h <;> exact List.cons_ne_nil _ _

theorem evaluate_length {tokens : List Token} {stack result : List Regex} {position : Nat}
    (h : evaluate stack position tokens = .ok result) :
    (result.length : Int) = stack.length + balance tokens := by
  fun_induction evaluate stack position tokens with
  | case1 stack position =>
    cases h
    simp [balance]
  | case2 stack position c rest ih =>
    rw [ih h, balance_cons, Token.balance, List.length_cons]
    omega
  | case3 stack position o rest next hp ih =>
    rw [ih h, balance_cons, push?_length hp]
    omega
  | case4 => simp at h

theorem evaluate_ne_nil {tokens : List Token} {stack result : List Regex} {position : Nat}
    (h : evaluate stack position tokens = .ok result) (hs : stack ≠ [] ∨ tokens ≠ []) :
    result ≠ [] := by
  fun_induction evaluate stack position tokens with
  | case1 stack position =>
    cases h
    simpa using hs
  | case2 stack position c rest ih => exact ih h (.inl (by simp))
  | case3 stack position o rest next hp ih => exact ih h (.inl (push?_ne_nil hp))
  | case4 => simp at h

end Regex

namespace Postfix

theorem filterMap_token?_released (p : Pending → Bool) (pending : List Pending) :
    released p pending ++ (pending.dropWhile p).filterMap Pending.token? =
      pending.filterMap Pending.token? := by
  rw [released, ← List.filterMap_append, List.takeWhile_append_dropWhile]

theorem filterMap_token?_tail (pending : List Pending) :
    (pending.dropWhile Pending.isOperator).tail.filterMap Pending.token? =
      (pending.dropWhile Pending.isOperator).filterMap Pending.token? := by
  induction pending with
  | nil => rfl
  | cons top below ih =>
    cases top with
    | operator o =>
      have ho : (Pending.operator o).isOperator = true := rfl
      simpa only [List.dropWhile_cons, ho, ↓reduceIte] using ih
    | opening => simp [Pending.isOperator, Pending.token?, List.filterMap_cons]

theorem ofLexemes_perm (lexemes : List Lexeme) (pending : List Pending) :
    (ofLexemes pending lexemes).Perm
      (pending.filterMap Pending.token? ++ lexemes.filterMap Lexeme.token?) := by
  induction lexemes generalizing pending with
  | nil => simp [ofLexemes]
  | cons lexeme rest ih =>
    cases lexeme with
    | operand c =>
      simp only [ofLexemes, List.filterMap_cons, Lexeme.token?]
      exact ((ih pending).cons _).trans List.perm_middle.symm
    | opening =>
      simpa [ofLexemes, List.filterMap_cons, Lexeme.token?, Pending.token?] using
        ih (.opening :: pending)
    | closing =>
      simp only [ofLexemes, List.filterMap_cons, Lexeme.token?]
      rw [← filterMap_token?_released Pending.isOperator pending, ← filterMap_token?_tail,
        List.append_assoc]
      exact (ih _).append_left _
    | operator o =>
      simp only [ofLexemes, List.filterMap_cons, Lexeme.token?]
      rw [← filterMap_token?_released (Pending.yieldsTo o) pending, List.append_assoc]
      refine List.Perm.append_left _ ((ih _).trans ?_)
      simpa [List.filterMap_cons, Pending.token?] using List.perm_middle.symm

theorem ofChars_perm (s : List Char) :
    (ofChars s).Perm ((Lexeme.ofChars s).filterMap Lexeme.token?) := by
  simpa [ofChars] using ofLexemes_perm (Lexeme.ofChars s) []

end Postfix

namespace Expression

def begins : List Char → Bool
  | [] => false
  | c :: _ => !(c == '*' || c == '|' || c == ')')

def awaits (c : Char) : Bool := c == '(' || c == '|'

/-- The number of characters that await an operand and are not followed by one. -/
def stalls : List Char → Nat
  | [] => 0
  | c :: rest => (if awaits c && !begins rest then 1 else 0) + stalls rest

theorem balance_ofChars_cons (c : Char) (rest : List Char) :
    balance ((Lexeme.ofChars (c :: rest)).filterMap Lexeme.token?) =
      balance ((Lexeme.ofChar c).token?.toList) - (if !awaits c && begins rest then 1 else 0) +
        balance ((Lexeme.ofChars rest).filterMap Lexeme.token?) := by
  cases rest with
  | nil => cases h : (Lexeme.ofChar c).token? <;> simp [Lexeme.ofChars, begins, h, balance]
  | cons d rest =>
    have hj : Lexeme.juxtaposed c d = (!awaits c && begins (d :: rest)) := rfl
    rw [Lexeme.ofChars_cons_cons, hj, List.filterMap_append, balance_append]
    congr 1
    have hc : (Lexeme.operator .concat).token? = some (.operator .concat) := rfl
    have hb : Token.balance (.operator .concat) = -1 := rfl
    cases h : (Lexeme.ofChar c).token? <;> cases !awaits c && begins (d :: rest) <;>
      simp [h, hc, hb, balance, Int.sub_eq_add_neg]

theorem balance_ofChars (s : List Char) :
    balance ((Lexeme.ofChars s).filterMap Lexeme.token?) =
      (if begins s then 1 else 0) - stalls s := by
  induction s with
  | nil => rfl
  | cons c rest ih =>
    rw [balance_ofChars_cons, ih, stalls]
    have hc : balance ((Lexeme.ofChar c).token?.toList) =
        (if begins (c :: rest) then 1 else 0) - (if awaits c then 1 else 0) := by
      simp only [Lexeme.ofChar, begins, awaits]
      split_ifs <;> simp_all [balance, Lexeme.token?, Token.balance]
    rw [hc]
    cases awaits c <;> cases begins rest <;> simp <;> omega

theorem balance_translated (s : List Char) :
    balance (Postfix.ofChars s) = (if begins s then 1 else 0) - stalls s := by
  rw [← balance_ofChars, balance_perm (Postfix.ofChars_perm s)]

end Expression

end RegexNfa

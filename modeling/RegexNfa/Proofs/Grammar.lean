import RegexNfa.Compile
import RegexNfa.Proofs.Balance
import RegexNfa.Proofs.Translation
import RegexNfa.Regex.Language

namespace RegexNfa

namespace Expression

inductive Parses : List Char → Regex → Prop
  | derived {s : List Char} {r : Regex} : Derives .strict .alternation s r → Parses s r
  | empty {depth : Nat} : 1 ≤ depth → Parses (emptyGroups depth) .epsilon

def Denotes (e w : List Char) : Prop := ∃ r, Parses e r ∧ r.Matches w

theorem operand_ne {c : Char} (h : isOperand c = true) :
    c ≠ '(' ∧ c ≠ ')' ∧ c ≠ '*' ∧ c ≠ '|' := by
  refine ⟨?_, ?_, ?_, ?_⟩ <;> rintro rfl <;> exact absurd h (by decide)

theorem Derives.head {level : Level} {s : List Char} {r : Regex} (h : Derives .strict level s r) :
    ∃ c, s.head? = some c ∧ (isOperand c = true ∨ c = '(') := by
  induction h with
  | @symbol c hc => exact ⟨c, rfl, .inl ((isOperand_iff c).mpr hc)⟩
  | group => exact ⟨'(', rfl, .inr rfl⟩
  | atom _ ih | item _ ih | sequence _ ih => exact ih
  | star _ ih | concat _ _ ih _ | union _ _ ih _ =>
    obtain ⟨c, hc, hc'⟩ := ih
    exact ⟨c, by simp [List.head?_append, hc], hc'⟩

theorem Derives.getLast {level : Level} {s : List Char} {r : Regex} (h : Derives .strict level s r) :
    ∃ c, s.getLast? = some c ∧ c ≠ '|' ∧ (level = .atom → c ≠ '*') := by
  induction h with
  | @symbol c hc =>
    obtain ⟨-, -, hs, hu⟩ := operand_ne ((isOperand_iff c).mpr hc)
    exact ⟨c, rfl, hu, fun _ => hs⟩
  | @group s r _ _ =>
    refine ⟨')', ?_, by decide, by decide⟩
    rw [← List.cons_append]
    exact List.getLast?_concat
  | atom _ ih =>
    obtain ⟨c, hc, hu, -⟩ := ih
    exact ⟨c, hc, hu, by simp⟩
  | star => exact ⟨'*', List.getLast?_concat, by decide, by simp⟩
  | item _ ih | sequence _ ih =>
    obtain ⟨c, hc, hu, -⟩ := ih
    exact ⟨c, hc, hu, by simp⟩
  | concat _ _ _ ih | union _ _ _ ih =>
    obtain ⟨c, hc, hu, -⟩ := ih
    exact ⟨c, by simp [List.getLast?_append, List.getLast?_cons, hc], hu, by simp⟩

theorem scan_operand {c : Char} (h : isOperand c = true) (previous : Option Char) (depth : Nat)
    (rest : List Char) : scan previous depth (c :: rest) = scan (some c) depth rest := by
  obtain ⟨h1, h2, h3, h4⟩ := operand_ne h
  simp [scan, isAllowed, h, doubles, h1, h2, h3, h4]

theorem scan_opening (previous : Option Char) (depth : Nat) (rest : List Char) :
    scan previous depth ('(' :: rest) = scan (some '(') (depth + 1) rest := by
  simp [scan, isAllowed, doubles]

theorem scan_closing (previous : Option Char) (depth : Nat) (rest : List Char) :
    scan previous depth (')' :: rest) = (depth != 0 && scan (some ')') (depth - 1) rest) := by
  simp [scan, isAllowed, doubles]

theorem scan_star (previous : Option Char) (depth : Nat) (rest : List Char) :
    scan previous depth ('*' :: rest) = (previous != some '*' && scan (some '*') depth rest) := by
  simp [scan, isAllowed, doubles, bne]

theorem scan_bar (previous : Option Char) (depth : Nat) (rest : List Char) :
    scan previous depth ('|' :: rest) = (previous != some '|' && scan (some '|') depth rest) := by
  simp [scan, isAllowed, doubles, bne]

theorem scan_append_of_derives {level : Level} {s : List Char} {r : Regex}
    (h : Derives .strict level s r) (previous : Option Char) (depth : Nat) (rest : List Char) :
    scan previous depth (s ++ rest) = scan s.getLast? depth rest := by
  induction h generalizing previous depth rest with
  | @symbol c hc => exact scan_operand ((isOperand_iff c).mpr hc) previous depth rest
  | @group s r _ ih =>
    have hl : ('(' :: (s ++ [')'])).getLast? = some ')' := by
      rw [← List.cons_append]
      exact List.getLast?_concat
    rw [hl, List.cons_append, List.append_assoc, scan_opening, ih, List.singleton_append,
      scan_closing]
    simp
  | atom _ ih | item _ ih | sequence _ ih => exact ih previous depth rest
  | @star s r h ih =>
    obtain ⟨c, hc, -, hs⟩ := h.getLast
    have hd : (some c != some '*') = true := by simpa using hs rfl
    rw [List.append_assoc, ih, List.singleton_append, scan_star, hc, hd, List.getLast?_concat]
    rfl
  | @concat s t q r _ ht ihs iht =>
    obtain ⟨c, hc, -⟩ := ht.getLast
    rw [List.append_assoc, ihs, iht, List.getLast?_append, hc]
    rfl
  | @union s t q r hs ht ihs iht =>
    obtain ⟨c, hc, hu, -⟩ := hs.getLast
    obtain ⟨d, hd, -⟩ := ht.getLast
    have hb : (some c != some '|') = true := by simpa using hu
    rw [List.append_assoc, ihs, List.cons_append, scan_bar, iht, hc, hb]
    simp [List.getLast?_append, List.getLast?_cons, hd]

theorem isValid_iff (e : String) :
    isValid e = true ↔
      (∃ c, e.toList.head? = some c ∧ (isOperand c = true ∨ c = '(')) ∧
        scan none 0 e.toList = true := by
  unfold isValid
  cases e.toList with
  | nil => simp
  | cons c rest => simp

theorem isValid_of_derives {e : String} {r : Regex} (h : Derives .strict .alternation e.toList r) :
    isValid e = true := by
  refine (isValid_iff e).mpr ⟨h.head, ?_⟩
  have hs := scan_append_of_derives h none 0 []
  simpa [scan] using hs

theorem scan_parentheses (m n depth : Nat) (previous : Option Char) :
    scan previous depth (List.replicate m '(' ++ List.replicate n ')') = (depth + m == n) := by
  induction m generalizing depth previous with
  | zero =>
    induction n generalizing depth previous with
    | zero => rfl
    | succ n ih =>
      simp only [List.replicate_zero, List.nil_append, Nat.add_zero] at ih ⊢
      rw [List.replicate_succ, scan_closing, ih]
      cases depth <;> simp
  | succ m ih =>
    rw [List.replicate_succ, List.cons_append, scan_opening, ih, Nat.add_right_comm, Nat.add_assoc]

theorem isValid_of_emptyGroups {e : String} {depth : Nat} (hd : 1 ≤ depth)
    (h : e.toList = emptyGroups depth) : isValid e = true := by
  obtain ⟨n, rfl⟩ : ∃ n, depth = n + 1 := ⟨depth - 1, by omega⟩
  refine (isValid_iff e).mpr ⟨⟨'(', by simp [h, emptyGroups, List.replicate_succ], .inr rfl⟩, ?_⟩
  rw [h, emptyGroups, scan_parentheses]
  simp

end Expression

end RegexNfa

import RegexNfa.Proofs.Exactness

/-!
How many states a frontier holds, repeats counted. A state is handed over by a root of the sweep or
by a state that an epsilon transition has entered, and the budget bounds the latter. A root that
hands over a state itself prolongs a chain of symbol transitions; in a composed automaton such a
chain is no longer than the table, so the entries do not pile up along the text.
-/

namespace RegexNfa

open Search

namespace Search

def Attempt.reaches (P : Nat → Bool) : Attempt → Bool
  | .read t => P t.target
  | .taken _ _ | .refused _ _ => false

def Attempt.isTaken : Attempt → Bool
  | .taken _ _ => true
  | .read _ | .refused _ _ => false

def Frame.reaches (p : Position) (P : Nat → Bool) (frame : Frame) : Bool :=
  !frame.consumed && frame.remaining.any fun t => p.reads t.label && P t.target

variable {a : Automaton} {p : Position} {P : Nat → Bool}

theorem Frame.reaches_flagged (rest : List Transition) :
    (⟨rest, true⟩ : Frame).reaches p P = false := rfl

theorem Frame.reaches_cons {t : Transition} {rest : List Transition} {f : Bool}
    (h : (⟨rest, f⟩ : Frame).reaches p P = true) :
    (⟨t :: rest, f⟩ : Frame).reaches p P = true := by
  simp only [reaches, Bool.and_eq_true, List.any_cons, Bool.or_eq_true] at h ⊢
  exact ⟨h.1, .inr h.2⟩

theorem countP_reaches_tail_le (t : Transition) (rest : List Transition) (f : Bool)
    (below : List Frame) :
    (⟨rest, f⟩ :: below : List Frame).countP (Frame.reaches p P) ≤
      (⟨t :: rest, f⟩ :: below : List Frame).countP (Frame.reaches p P) := by
  by_cases h : (⟨rest, f⟩ : Frame).reaches p P = true
  · rw [List.countP_cons_of_pos h, List.countP_cons_of_pos (Frame.reaches_cons h)]
  · rw [List.countP_cons_of_neg h]
    exact (List.sublist_cons_self _ below).countP_le

namespace Explores

variable {stack : List Frame} {b : Budget} {l : List Attempt} {o : Outcome}

theorem countP_deferred (h : Explores a p stack b l o) (hp : p.isInner = true) (P : Nat → Bool) :
    o.deferred.countP P = l.countP (Attempt.reaches P) := by
  rw [Outcome.deferred, h.events_eq, List.filterMap_filterMap, List.countP_filterMap]
  congr 1
  funext x
  cases x <;> simp [Attempt.event?, Attempt.reaches, hp]

theorem deferred_eq_nil (h : Explores a p stack b l o) (hp : p.isInner = false) :
    o.deferred = [] := by
  rw [Outcome.deferred, h.events_eq, List.filterMap_filterMap, List.filterMap_eq_nil_iff]
  intro x _
  cases x <;> simp [Attempt.event?, hp]

theorem countP_isTaken (h : Explores a p stack b l o) :
    l.countP Attempt.isTaken + o.budget.total = b.total := by
  induction h with
  | done | readFinal | takeFinal => exact Nat.zero_add _
  | leave _ ih | abandon _ _ ih | skip _ _ _ ih => exact ih
  | defer _ _ _ ih | read _ _ _ _ ih | refuse _ _ _ _ ih => exact ih
  | take _ _ hb _ ih =>
    have hspent := Budget.total_spend hb
    rw [List.countP_cons_of_pos rfl]
    omega

theorem countP_reaches_le (h : Explores a p stack b l o) (hp : p.isInner = true)
    (P : Nat → Bool) :
    l.countP (Attempt.reaches P) ≤
      stack.countP (Frame.reaches p P) + l.countP Attempt.isTaken := by
  induction h with
  | done | readFinal | takeFinal => exact Nat.zero_le _
  | leave _ ih | abandon _ _ ih => simpa [Frame.reaches] using ih
  | @defer t rest below b l o hr _ _ ih =>
    -- a frame counts until it has read the symbol: from then on it is flagged
    rw [List.countP_cons_of_neg (by simp [Frame.reaches_flagged])] at ih
    by_cases ht : P t.target = true
    · have htop : (⟨t :: rest, false⟩ : Frame).reaches p P = true := by
        simp [Frame.reaches, hr, ht]
      rw [List.countP_cons_of_pos htop, List.countP_cons_of_pos (by simpa [Attempt.reaches] using ht),
        List.countP_cons_of_neg (p := Attempt.isTaken) (by simp [Attempt.isTaken])]
      omega
    · have hbelow : below.countP (Frame.reaches p P) ≤
          (⟨t :: rest, false⟩ :: below : List Frame).countP (Frame.reaches p P) :=
        (List.sublist_cons_self _ below).countP_le
      rw [List.countP_cons_of_neg (by simpa [Attempt.reaches] using ht),
        List.countP_cons_of_neg (p := Attempt.isTaken) (by simp [Attempt.isTaken])]
      omega
  | read _ hinner =>
    rw [hp] at hinner
    cases hinner
  | @take t rest f below b l o _ _ _ _ ih =>
    have hrest := countP_reaches_tail_le (p := p) (P := P) t rest f below
    rw [List.countP_cons] at ih
    rw [List.countP_cons_of_neg (by simp [Attempt.reaches]),
      List.countP_cons_of_pos (p := Attempt.isTaken) (by rfl)]
    split at ih <;> omega
  | refuse _ _ _ _ ih | skip _ _ _ ih =>
    exact ih.trans (Nat.add_le_add_right (countP_reaches_tail_le _ _ _ _) _)

end Explores

end Search

def startsChain (table : List Transition) : Nat → Nat → Bool
  | 0, _ => true
  | n + 1, s => table.any fun t => t.source == s && !t.isEpsilon && startsChain table n t.target

theorem startsChain_succ {table : List Transition} {t : Transition} {n : Nat} (ht : t ∈ table)
    (he : t.isEpsilon = false) (h : startsChain table n t.target = true) :
    startsChain table (n + 1) t.source = true := by
  rw [startsChain, List.any_eq_true]
  exact ⟨t, ht, by simp [he, h]⟩

theorem chain_le {table : List Transition} (hstep : Fragment.Stepwise table) {n s : Nat}
    (h : startsChain table n s = true) :
    n ≤ table.countP fun t => !t.isEpsilon && decide (s ≤ t.source) := by
  induction n generalizing s with
  | zero => exact Nat.zero_le _
  | succ n ih =>
    rw [startsChain, List.any_eq_true] at h
    obtain ⟨t, ht, h⟩ := h
    simp only [Bool.and_eq_true, beq_iff_eq, Bool.not_eq_true'] at h
    obtain ⟨⟨rfl, he⟩, hchain⟩ := h
    rw [hstep t ht he] at hchain
    -- the rest of the chain starts above the source of its first transition
    have hle := ih hchain
    have hperm := List.perm_cons_erase ht
    rw [hperm.countP_eq, List.countP_cons_of_neg (by simp)] at hle
    rw [hperm.countP_eq, List.countP_cons_of_pos (by simp [he])]
    refine Nat.succ_le_succ (hle.trans (List.countP_mono_left ?_))
    intro u _ hu
    simp only [Bool.and_eq_true, decide_eq_true_eq] at hu ⊢
    exact ⟨hu.1, by omega⟩

namespace Automaton

def symbols (a : Automaton) : List Transition := a.transitions.filter (!·.isEpsilon)

variable {a : Automaton} {u : List Char} {p : Position} {n s : Nat}

theorem chain_le_symbols (hstep : Fragment.Stepwise a.transitions)
    (h : startsChain a.transitions n s = true) : n ≤ a.symbols.length := by
  rw [symbols, ← List.countP_eq_length_filter]
  refine (chain_le hstep h).trans (List.countP_mono_left ?_)
  intro t _ ht
  exact (Bool.and_eq_true _ _ ▸ ht).1

theorem startsChain_of_reaches
    (h : (enter a s false).reaches p (startsChain a.transitions n) = true) :
    startsChain a.transitions (n + 1) s = true := by
  rw [Frame.reaches, Bool.and_eq_true, List.any_eq_true] at h
  obtain ⟨-, t, ht, hr⟩ := h
  rw [Bool.and_eq_true] at hr
  obtain ⟨htable, rfl⟩ := mem_outgoing.mp ht
  exact startsChain_succ htable (Position.isEpsilon_of_reads hr.1) hr.2

theorem countP_deferred_le (a : Automaton) (u : List Char) (hp : p.isInner = true)
    (P : Nat → Bool) :
    (a.outcomeAt u p).deferred.countP P ≤
      (a.frontier u).countP (fun s => (enter a s false).reaches p P) + 2 * a.epsilons.length := by
  have hrun := explores_at a u p
  have hreads := hrun.countP_reaches_le hp P
  have htaken := hrun.countP_isTaken
  have hfull := Budget.total_full a
  have hcard := List.toFinset_card_le a.epsilons
  rw [roots, List.countP_map] at hreads
  rw [hrun.countP_deferred hp]
  simp only [Function.comp_def] at hreads
  omega

theorem not_startsChain (hstep : Fragment.Stepwise a.transitions) {c : Char}
    (hs : s ∈ a.frontier (u ++ [c])) (hn : a.symbols.length ≤ n) :
    startsChain a.transitions n s = false := by
  rw [← Bool.not_eq_true]
  intro h
  obtain ⟨r, -, hr⟩ := arrives_concat_iff.mp (arrives_of_mem_frontier hs)
  have hle := chain_le_symbols hstep (startsChain_succ hr rfl h)
  omega

theorem countP_startsChain_le (hstep : Fragment.Stepwise a.transitions) (u : List Char) (n : Nat) :
    (a.frontier u).countP (startsChain a.transitions n) ≤
      2 * a.epsilons.length * (a.symbols.length - n) + 1 := by
  -- an entry at the start of a chain comes from a longer chain or has used up some budget
  induction u using List.reverseRecOn generalizing n with
  | nil => exact List.countP_le_length.trans (Nat.le_add_left 1 _)
  | append_singleton u c ih =>
    by_cases hn : n < a.symbols.length
    · obtain ⟨k, hk⟩ := Nat.exists_eq_add_of_lt hn
      have hroots : (a.frontier u).countP
            (fun s => (enter a s false).reaches (.inner c) (startsChain a.transitions n)) ≤
          (a.frontier u).countP (startsChain a.transitions (n + 1)) :=
        List.countP_mono_left fun s _ => startsChain_of_reaches
      have hdeferred := countP_deferred_le a u (p := .inner c) rfl (startsChain a.transitions n)
      have hih := ih (n + 1)
      have hnext : a.symbols.length - (n + 1) = k := by omega
      have hhere : a.symbols.length - n = k + 1 := by omega
      rw [hnext] at hih
      rw [frontier_concat, hhere, Nat.mul_succ]
      omega
    · rw [List.countP_eq_zero.mpr]
      · exact Nat.zero_le _
      · intro s hs
        rw [not_startsChain hstep hs (Nat.le_of_not_lt hn)]
        exact Bool.false_ne_true

theorem length_frontier_le (hstep : Fragment.Stepwise a.transitions) (u : List Char) :
    (a.frontier u).length ≤ 2 * a.epsilons.length * a.symbols.length + 1 := by
  have h := countP_startsChain_le hstep u 0
  have hall : (a.frontier u).countP (startsChain a.transitions 0) = (a.frontier u).length :=
    List.countP_eq_length.mpr fun _ _ => rfl
  rwa [hall] at h

theorem length_deferred_le (hstep : Fragment.Stepwise a.transitions) (u : List Char)
    (p : Position) :
    (a.outcomeAt u p).deferred.length ≤ 2 * a.epsilons.length * a.symbols.length + 1 := by
  cases p with
  | inner c =>
    rw [← frontier_concat]
    exact length_frontier_le hstep (u ++ [c])
  | blank | last | past =>
    rw [(explores_at a u _).deferred_eq_nil rfl]
    exact Nat.zero_le _

theorem Composed.stepwise (h : a.Composed) : Fragment.Stepwise a.transitions := by
  obtain ⟨r, rfl⟩ := h.exists_regex
  exact r.toFragment_stepwise

theorem frontier_bounded (ha : a.Composed) (text : String) :
    ∀ s ∈ a.sweeps text.toList,
      s.frontier.length ≤ 2 * a.epsilons.length * a.symbols.length + 1 ∧
        s.outcome.deferred.length ≤ 2 * a.epsilons.length * a.symbols.length + 1 := by
  rw [sweeps_eq, List.forall_mem_map]
  intro i _
  exact ⟨length_frontier_le ha.stepwise _, length_deferred_le ha.stepwise _ _⟩

theorem frontier_bounded_repeats :
    ∃ a, compile "(((a*a)*)*a)*" = .ok a ∧ ∀ s ∈ a.sweeps "aaaaaaa".toList,
      s.frontier.length ≤ 97 ∧ s.outcome.deferred.length ≤ 97 := by
  have hc : compile "(((a*a)*)*a)*" = .ok (ofFragment (.star (.concat (.star (.star
      (.concat (.star (.literal 'a')) (.literal 'a')))) (.literal 'a')))) := by
    rfl
  exact ⟨_, hc, frontier_bounded (.compiled hc) "aaaaaaa"⟩

end Automaton

end RegexNfa

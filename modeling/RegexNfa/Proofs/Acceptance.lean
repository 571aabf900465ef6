import Mathlib.Data.List.Permutation
import RegexNfa.Proofs.FragmentPaths
import RegexNfa.Proofs.Frontier

namespace RegexNfa

open Search

namespace Automaton

variable {a : Automaton} {u : List Char} {p : Position}

theorem not_final_of_tried {t : Transition} {f : Bool}
    (h : Tried p (a.attemptsAt u p) (enter a t.source f)) (ht : t ∈ a.transitions)
    (he : t.isEpsilon = true) (hf : p.closes f = true) : t.target ≠ a.final := by
  intro htarget
  have hsound : ∀ x ∈ a.attemptsAt u p, x.Sound a p fun _ _ => True := by
    refine ((explores_at a u p).sound (forall_mem_roots fun s _ => .enter trivial) ?_).1
    constructor <;> intros <;> trivial
  obtain hx | hx := (h t (mem_outgoing.mpr ⟨ht, rfl⟩)).epsilon he
  · obtain ⟨-, -, -, hn⟩ := hsound _ hx
    exact hn ⟨htarget, hf⟩
  · obtain ⟨-, -, -, hn⟩ := hsound _ hx
    exact hn ⟨htarget, hf⟩

theorem path_read {t : Transition} (ht : t ∈ a.transitions) (hr : p.reads t.label = true)
    (hs : Path a.transitions 0 u t.source) :
    Path a.transitions 0 (u ++ p.char?.toList) t.target := by
  obtain ⟨c, hc⟩ := Position.exists_char_of_reads hr
  rw [Position.eq_symbol_of_reads hc hr] at ht
  rw [hc]
  exact hs.append (.symbol ht (.nil _))

def Reads (a : Automaton) (u : List Char) (p : Position) : Bool → Nat → Prop
  | false, s => Path a.transitions 0 u s
  | true, s => Path a.transitions 0 (u ++ p.char?.toList) s

theorem kept_reads (ha : EpsilonsFirst a.transitions) (l : List Attempt) :
    Kept a p (Reads a u p) l := by
  refine ⟨?_, ?_, ?_⟩
  · intro t f _ ht he hs
    cases f with
    | false => exact Path.then_epsilon hs ht he
    | true => exact Path.then_epsilon hs ht he
  · intro t _ ht hr _ hs
    exact path_read ht hr hs
  · intro s t v hsub hr he _
    rw [isEpsilon_of_sibling ha hsub (Position.isEpsilon_of_reads hr)] at he
    cases he

theorem enters_of_accepted {R : Bool → Nat → Prop} (hR : Kept a p R (a.attemptsAt u p))
    (hu : ∀ s, a.Arrives u s → R false s) (h : (a.outcomeAt u p).accepted = true) :
    Enters a p R := by
  refine ((explores_at a u p).sound (forall_mem_roots fun s hs => .enter ?_) hR).2 h
  exact hu s (arrives_of_mem_frontier hs)

theorem path_of_accepted (ha : EpsilonsFirst a.transitions)
    (hp : ∀ f, p.closes f = true → u ++ p.char?.toList = u ∨ f = true)
    (h : (a.outcomeAt u p).accepted = true) :
    Path a.transitions 0 (u ++ p.char?.toList) a.final := by
  have hR := kept_reads (u := u) (p := p) ha (a.attemptsAt u p)
  obtain ⟨t, ht, htarget, ⟨hr, -, hs⟩ | ⟨he, f, hf, hs⟩⟩ :=
    enters_of_accepted hR (fun s hs => hs.path) h
  · rw [← htarget]
    exact path_read ht hr hs
  · rw [← htarget]
    have hs : Path a.transitions 0 (u ++ p.char?.toList) t.source := by
      cases f with
      | true => exact hs
      | false =>
        obtain hu | hf := hp false hf
        · rw [hu]
          exact hs
        · cases hf
    exact hs.then_epsilon ht he

theorem path_of_epsilonsFirst (ha : EpsilonsFirst a.transitions) {w : List Char}
    (h : a.acceptsChars w = true) : Path a.transitions 0 w a.final := by
  obtain rfl | ⟨u, c, rfl⟩ := List.eq_nil_or_concat w
  · rw [acceptsChars_nil] at h
    exact path_of_accepted (p := .blank) ha (fun f _ => .inl rfl) h
  · rw [List.concat_eq_append, acceptsChars_concat] at h
    rw [List.concat_eq_append]
    exact path_of_accepted (p := .last c) ha (fun f hf => .inr hf) h

theorem path_of_accepts (ha : Fragment.Unmixed a.transitions) {w : List Char}
    (h : a.acceptsChars w = true) : Path a.transitions 0 w a.final :=
  path_of_epsilonsFirst ha.epsilonsFirst h

end Automaton

theorem unmixed_compiled {e : String} {a : Automaton} (h : compile e = .ok a) :
    Fragment.Unmixed a.transitions := by
  obtain ⟨r, -, rfl⟩ := (Expression.compile_eq_ok_iff e a).mp h
  exact r.toFragment_unmixed

theorem denotes_of_accepts {e : String} {a : Automaton} (h : compile e = .ok a) {w : List Char}
    (hw : a.acceptsChars w = true) : Expression.Denotes e.toList w :=
  (spells_compiled h w).mp (Automaton.path_of_accepts (unmixed_compiled h) hw)

theorem accepts_only_language :
    (∀ (r : Regex) (w : String),
      (Automaton.ofFragment r.toFragment).accepts w = true → r.Matches w.toList) ∧
    ∀ (e : String) (a : Automaton), compile e = .ok a →
      ∀ w : String, a.accepts w = true → Expression.Denotes e.toList w.toList := by
  constructor
  · intro r w h
    apply (r.spells_toFragment w.toList).mp
    exact Automaton.path_of_accepts (a := .ofFragment r.toFragment) r.toFragment_unmixed h
  · intro e a h w hw
    exact denotes_of_accepts h hw

theorem accepts_only_language_starred :
    ∃ a, compile "(a|b)*a" = .ok a ∧ a.accepts "aba" = true ∧
      (Regex.concat (.star (.union (.symbol 'a') (.symbol 'b'))) (.symbol 'a')).Matches
        "aba".toList ∧
      Expression.Denotes "(a|b)*a".toList "aba".toList := by
  have hc : compile "(a|b)*a" = .ok (.ofFragment
      (.concat (.star (.union (.literal 'a') (.literal 'b'))) (.literal 'a'))) := by
    rfl
  have hw : (Automaton.ofFragment (.concat (.star (.union (.literal 'a') (.literal 'b')))
      (.literal 'a'))).accepts "aba" = true := by
    cbv
  exact ⟨_, hc, hw, accepts_only_language.1 _ _ hw, accepts_only_language.2 _ _ hc _ hw⟩

end RegexNfa

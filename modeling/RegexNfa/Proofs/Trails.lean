import RegexNfa.Proofs.Coverage

namespace RegexNfa

inductive EpsilonPath (table : List Transition) : Nat → List Transition → Nat → Prop
  | nil (s : Nat) : EpsilonPath table s [] s
  | cons {t : Transition} {ts : List Transition} {u : Nat} :
      t ∈ table → t.isEpsilon = true → EpsilonPath table t.target ts u →
        EpsilonPath table t.source (t :: ts) u

theorem EpsilonPath.path {table : List Transition} {s u : Nat} {ts : List Transition}
    (h : EpsilonPath table s ts u) : Path table s [] u := by
  induction h with
  | nil s => exact .nil s
  | cons ht he _ ih =>
    rw [Transition.isEpsilon_iff] at he
    rw [he] at ht
    exact .epsilon ht ih

theorem EpsilonPath.first_step {table : List Transition} {s u : Nat} {ts : List Transition}
    (h : EpsilonPath table s ts u) : (s = u ∧ ts = []) ∨
      ∃ t ∈ table, t.isEpsilon = true ∧ t.source = s ∧
        ∃ us, ts = t :: us ∧ EpsilonPath table t.target us u := by
  cases h with
  | nil => exact .inl ⟨rfl, rfl⟩
  | cons ht he h => exact .inr ⟨_, ht, he, rfl, _, rfl, h⟩

structure Deterministic (table : List Transition) : Prop where
  unique : ∀ {s u : Nat} {ts us : List Transition},
    EpsilonPath table s ts u → EpsilonPath table s us u → ts = us
  apart : ∀ {r s t s' t' : Nat} {c : Char}, Path table r [] s → Path table r [] t →
    .symbol s c s' ∈ table → .symbol t c t' ∈ table → s = t

namespace Search

/-- A walk of an exploration: along epsilon transitions and at most once across the symbol, which
sets the flag. -/
inductive Trail (table : List Transition) (p : Position) :
    Bool → Nat → List Transition → Bool → Nat → Prop
  | nil (f : Bool) (s : Nat) : Trail table p f s [] f s
  | epsilon {t : Transition} {ts : List Transition} {f g : Bool} {u : Nat} :
      t ∈ table → t.isEpsilon = true → Trail table p f t.target ts g u →
        Trail table p f t.source (t :: ts) g u
  | read {t : Transition} {ts : List Transition} {g : Bool} {u : Nat} :
      t ∈ table → p.reads t.label = true → Trail table p true t.target ts g u →
        Trail table p false t.source (t :: ts) g u

namespace Trail

variable {table : List Transition} {p : Position} {f g : Bool} {s u : Nat}
  {ts us : List Transition}

theorem flagged (h : Trail table p f s ts g u) (hf : f = true) : g = true := by
  induction h with
  | nil => exact hf
  | epsilon _ _ _ ih => exact ih hf
  | read _ _ _ ih => exact ih rfl

theorem epsilonPath (h : Trail table p f s ts g u) (hg : g = f) : EpsilonPath table s ts u := by
  induction h with
  | nil f s => exact .nil s
  | epsilon ht he _ ih => exact .cons ht he (ih hg)
  | read _ _ h _ =>
    rw [h.flagged rfl] at hg
    cases hg

theorem crossing (h : Trail table p f s ts g u) (hf : f = false) (hg : g = true) :
    ∃ t ∈ table, p.reads t.label = true ∧ ∃ us vs, ts = us ++ t :: vs ∧
      EpsilonPath table s us t.source ∧ EpsilonPath table t.target vs u := by
  induction h with
  | nil f s =>
    rw [hf] at hg
    cases hg
  | epsilon ht he _ ih =>
    obtain ⟨t, htable, hr, us, vs, rfl, hus, hvs⟩ := ih hf hg
    exact ⟨t, htable, hr, _ :: us, vs, rfl, .cons ht he hus, hvs⟩
  | read ht hr h _ => exact ⟨_, ht, hr, [], _, rfl, .nil _, h.epsilonPath hg⟩

end Trail

end Search

namespace Deterministic

open Search

variable {table : List Transition} {p : Position} {f g : Bool} {s u : Nat}
  {ts us : List Transition}

theorem eq_of_reads (hd : Deterministic table) (hu : Fragment.Unmixed table) {t v : Transition}
    (ht : t ∈ table) (hv : v ∈ table) (htr : p.reads t.label = true) (hvr : p.reads v.label = true)
    (hst : Path table s [] t.source) (hsv : Path table s [] v.source) : t = v := by
  apply hu.eq ht hv _ (Position.isEpsilon_of_reads htr)
  obtain ⟨c, hc⟩ := Position.exists_char_of_reads htr
  rw [Position.eq_symbol_of_reads hc htr] at ht
  rw [Position.eq_symbol_of_reads hc hvr] at hv
  exact hd.apart hst hsv ht hv

theorem trail_unique (hd : Deterministic table) (hu : Fragment.Unmixed table)
    (h : Trail table p f s ts g u) (h' : Trail table p f s us g u) : ts = us := by
  by_cases hg : g = f
  · exact hd.unique (h.epsilonPath hg) (h'.epsilonPath hg)
  · obtain ⟨rfl, rfl⟩ : f = false ∧ g = true := by
      cases f with
      | false => exact ⟨rfl, by simpa using hg⟩
      | true => exact absurd (h.flagged rfl) hg
    obtain ⟨t, ht, htr, x, y, rfl, hx, hy⟩ := h.crossing rfl rfl
    obtain ⟨v, hv, hvr, x', y', rfl, hx', hy'⟩ := h'.crossing rfl rfl
    obtain rfl := hd.eq_of_reads hu ht hv htr hvr hx.path hx'.path
    rw [hd.unique hx hx', hd.unique hy hy']

/-- A list of later states for each state is enough to see that a table is deterministic, if every
symbol labels transitions of one state only. -/
theorem of_later (later : Nat → List Nat)
    (hstep : ∀ t ∈ table, t.isEpsilon = true →
      ∀ u ∈ t.target :: later t.target, u ∈ later t.source)
    (hcycle : ∀ t ∈ table, t.isEpsilon = true → t.source ∉ t.target :: later t.target)
    (hfork : ∀ t ∈ table, ∀ v ∈ table, t.isEpsilon = true → v.isEpsilon = true →
      t.source = v.source → t ≠ v →
        ∀ u ∈ t.target :: later t.target, u ∉ v.target :: later v.target)
    (hs : ∀ t ∈ table, ∀ v ∈ table, t.isEpsilon = false → t.label = v.label → t.source = v.source) :
    Deterministic table := by
  have hends {s u : Nat} {ts : List Transition} (h : EpsilonPath table s ts u) :
      u ∈ s :: later s := by
    induction h with
    | nil s => exact .head _
    | cons ht he _ ih => exact .tail _ (hstep _ ht he _ ih)
  refine ⟨?_, fun _ _ ht hv => hs _ ht _ hv rfl rfl⟩
  intro s u ts us h h'
  induction h generalizing us with
  | nil s =>
    obtain ⟨-, rfl⟩ | ⟨v, hv, he, rfl, vs, -, hvs⟩ := h'.first_step
    · rfl
    · exact absurd (hends hvs) (hcycle v hv he)
  | @cons t ts u ht he h ih =>
    obtain ⟨rfl, -⟩ | ⟨v, hv, hve, hsource, vs, rfl, hvs⟩ := h'.first_step
    · exact absurd (hends h) (hcycle t ht he)
    · by_cases htv : t = v
      · subst htv
        rw [ih hvs]
      · exact absurd (hends hvs) (hfork t ht v hv he hve hsource.symm htv u (hends h))

end Deterministic

end RegexNfa

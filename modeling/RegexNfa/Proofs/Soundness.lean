import RegexNfa.Proofs.Attempts

namespace RegexNfa.Search

variable {a : Automaton} {p : Position} {R : Bool → Nat → Prop}

/-- The relation is kept by what is followed. Reading the symbol also flags the state that is left,
for the epsilon transitions listed after the symbol. -/
structure Kept (a : Automaton) (p : Position) (R : Bool → Nat → Prop) (l : List Attempt) : Prop where
  taken : ∀ (t : Transition) (f : Bool), .taken t f ∈ l → t ∈ a.transitions → t.isEpsilon = true →
    R f t.source → R f t.target
  read : ∀ t : Transition, .read t ∈ l → t ∈ a.transitions → p.reads t.label = true →
    p.isInner = false → R false t.source → R true t.target
  sibling : ∀ (s : Nat) (t u : Transition), [t, u].Sublist (a.outgoing s) →
    p.reads t.label = true → u.isEpsilon = true → R false s → R true s

theorem Kept.tail {x : Attempt} {l : List Attempt} (h : Kept a p R (x :: l)) : Kept a p R l :=
  ⟨fun t f ht => h.taken t f (.tail _ ht), fun t ht => h.read t (.tail _ ht), h.sibling⟩

def Frame.Holds (a : Automaton) (R : Bool → Nat → Prop) (frame : Frame) : Prop :=
  ∃ s, frame.remaining.Sublist (a.outgoing s) ∧ (frame.consumed = false → R false s) ∧
    (frame.consumed = true → ∀ u ∈ frame.remaining, u.isEpsilon = true → R true s)

def Attempt.Sound (a : Automaton) (p : Position) (R : Bool → Nat → Prop) : Attempt → Prop
  | .read t => t ∈ a.transitions ∧ p.reads t.label = true ∧ R false t.source ∧
      ¬ (t.target = a.final ∧ p.closes true = true)
  | .taken t f | .refused t f => t ∈ a.transitions ∧ t.isEpsilon = true ∧ R f t.source ∧
      ¬ (t.target = a.final ∧ p.closes f = true)

def Enters (a : Automaton) (p : Position) (R : Bool → Nat → Prop) : Prop :=
  ∃ t ∈ a.transitions, t.target = a.final ∧
    (p.reads t.label = true ∧ p.closes true = true ∧ R false t.source ∨
      t.isEpsilon = true ∧ ∃ f, p.closes f = true ∧ R f t.source)

namespace Frame.Holds

theorem enter {s : Nat} {f : Bool} (h : R f s) : (enter a s f).Holds a R :=
  ⟨s, .refl _, fun hf => hf ▸ h, fun hf _ _ _ => hf ▸ h⟩

variable {t : Transition} {rest : List Transition} {f : Bool}

theorem tail (h : Frame.Holds a R ⟨t :: rest, f⟩) : Frame.Holds a R ⟨rest, f⟩ := by
  obtain ⟨s, hs, hfalse, htrue⟩ := h
  refine ⟨s, (List.sublist_cons_self t rest).trans hs, hfalse, ?_⟩
  intro hf u hu
  exact htrue hf u (.tail _ hu)

theorem mem (h : Frame.Holds a R ⟨t :: rest, f⟩) : t ∈ a.transitions := by
  obtain ⟨s, hs, -⟩ := h
  exact (Automaton.mem_outgoing.mp (hs.subset (.head _))).1

theorem unread (h : Frame.Holds a R ⟨t :: rest, false⟩) : R false t.source := by
  obtain ⟨s, hs, hfalse, -⟩ := h
  obtain ⟨-, rfl⟩ := Automaton.mem_outgoing.mp (hs.subset (.head _))
  exact hfalse rfl

theorem epsilon (h : Frame.Holds a R ⟨t :: rest, f⟩) (he : t.isEpsilon = true) :
    R f t.source := by
  cases f with
  | false => exact h.unread
  | true =>
    obtain ⟨s, hs, -, htrue⟩ := h
    obtain ⟨-, rfl⟩ := Automaton.mem_outgoing.mp (hs.subset (.head _))
    exact htrue rfl t (.head _) he

theorem flag {l : List Attempt} (h : Frame.Holds a R ⟨t :: rest, false⟩) (hR : Kept a p R l)
    (hr : p.reads t.label = true) : Frame.Holds a R ⟨rest, true⟩ := by
  obtain ⟨s, hs, hfalse, -⟩ := h
  refine ⟨s, (List.sublist_cons_self t rest).trans hs, by simp, ?_⟩
  intro _ u hu he
  have hpair : [t, u].Sublist (t :: rest) := (List.singleton_sublist.mpr hu).cons_cons t
  exact hR.sibling s t u (hpair.trans hs) hr he (hfalse rfl)

end Frame.Holds

theorem Explores.sound {stack : List Frame} {b : Budget} {l : List Attempt} {o : Outcome}
    (h : Explores a p stack b l o) (hs : ∀ frame ∈ stack, frame.Holds a R) (hR : Kept a p R l) :
    (∀ x ∈ l, x.Sound a p R) ∧ (o.accepted = true → Enters a p R) := by
  induction h with
  | done => simp
  | leave _ ih | abandon _ _ ih => exact ih (List.forall_mem_cons.mp hs).2 hR
  | readFinal hr ht hc =>
    obtain ⟨htop, -⟩ := List.forall_mem_cons.mp hs
    exact ⟨by simp, fun _ => ⟨_, htop.mem, ht, .inl ⟨hr, hc, htop.unread⟩⟩⟩
  | takeFinal he ht hc =>
    obtain ⟨htop, -⟩ := List.forall_mem_cons.mp hs
    exact ⟨by simp, fun _ => ⟨_, htop.mem, ht, .inr ⟨he, _, hc, htop.epsilon he⟩⟩⟩
  | defer hr hinner _ ih =>
    obtain ⟨htop, hs⟩ := List.forall_mem_cons.mp hs
    obtain ⟨hl, ho⟩ := ih (List.forall_mem_cons.mpr ⟨htop.flag hR hr, hs⟩) hR.tail
    rw [List.forall_mem_cons]
    refine ⟨⟨⟨htop.mem, hr, htop.unread, ?_⟩, hl⟩, ho⟩
    simp [Position.closes_of_isInner hinner]
  | read hr hinner hlast _ ih =>
    obtain ⟨htop, hs⟩ := List.forall_mem_cons.mp hs
    have henter := hR.read _ (.head _) htop.mem hr hinner htop.unread
    have hs' := List.forall_mem_cons.mpr ⟨htop.flag hR hr, hs⟩
    obtain ⟨hl, ho⟩ := ih (List.forall_mem_cons.mpr ⟨.enter henter, hs'⟩) hR.tail
    rw [List.forall_mem_cons]
    exact ⟨⟨⟨htop.mem, hr, htop.unread, hlast⟩, hl⟩, ho⟩
  | take he hlast _ _ ih =>
    obtain ⟨htop, hs⟩ := List.forall_mem_cons.mp hs
    have henter := hR.taken _ _ (.head _) htop.mem he (htop.epsilon he)
    have hs' := List.forall_mem_cons.mpr ⟨htop.tail, hs⟩
    obtain ⟨hl, ho⟩ := ih (List.forall_mem_cons.mpr ⟨.enter henter, hs'⟩) hR.tail
    rw [List.forall_mem_cons]
    exact ⟨⟨⟨htop.mem, he, htop.epsilon he, hlast⟩, hl⟩, ho⟩
  | refuse he hlast _ _ ih =>
    obtain ⟨htop, hs⟩ := List.forall_mem_cons.mp hs
    obtain ⟨hl, ho⟩ := ih (List.forall_mem_cons.mpr ⟨htop.tail, hs⟩) hR.tail
    rw [List.forall_mem_cons]
    exact ⟨⟨⟨htop.mem, he, htop.epsilon he, hlast⟩, hl⟩, ho⟩
  | skip _ _ _ ih =>
    obtain ⟨htop, hs⟩ := List.forall_mem_cons.mp hs
    exact ih (List.forall_mem_cons.mpr ⟨htop.tail, hs⟩) hR

end RegexNfa.Search

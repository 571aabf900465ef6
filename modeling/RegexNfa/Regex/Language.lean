import RegexNfa.Regex.Basic

namespace RegexNfa.Regex

inductive Matches : Regex → List Char → Prop
  | epsilon : Matches .epsilon []
  | symbol (c : Char) : Matches (.symbol c) [c]
  | concat {r s : Regex} {u v : List Char} :
      Matches r u → Matches s v → Matches (.concat r s) (u ++ v)
  | left {r s : Regex} {w : List Char} : Matches r w → Matches (.union r s) w
  | right {r s : Regex} {w : List Char} : Matches s w → Matches (.union r s) w
  | star_nil {r : Regex} : Matches (.star r) []
  | star_append {r : Regex} {u v : List Char} :
      Matches r u → Matches (.star r) v → Matches (.star r) (u ++ v)

def nullable : Regex → Bool
  | .epsilon => true
  | .symbol _ => false
  | .concat r s => r.nullable && s.nullable
  | .union r s => r.nullable || s.nullable
  | .star _ => true

theorem matches_nil_of_nullable {r : Regex} (h : r.nullable = true) : Matches r [] := by
  induction r with
  | epsilon => exact .epsilon
  | symbol c => simp [nullable] at h
  | concat r s ihr ihs =>
    simp only [nullable, Bool.and_eq_true] at h
    exact .concat (ihr h.1) (ihs h.2)
  | union r s ihr ihs =>
    simp only [nullable, Bool.or_eq_true] at h
    exact h.elim (fun h => .left (ihr h)) (fun h => .right (ihs h))
  | star r => exact .star_nil

theorem nullable_of_matches {r : Regex} {w : List Char} (h : Matches r w) (hw : w = []) :
    r.nullable = true := by
  induction h with
  | epsilon => rfl
  | symbol c => simp at hw
  | concat _ _ ihr ihs =>
    obtain ⟨hu, hv⟩ := List.append_eq_nil_iff.1 hw
    simp [nullable, ihr hu, ihs hv]
  | left _ ih => simp [nullable, ih hw]
  | right _ ih => simp [nullable, ih hw]
  | star_nil => rfl
  | star_append => rfl

theorem matches_nil_iff {r : Regex} : Matches r [] ↔ r.nullable = true :=
  ⟨fun h => nullable_of_matches h rfl, matches_nil_of_nullable⟩

end RegexNfa.Regex

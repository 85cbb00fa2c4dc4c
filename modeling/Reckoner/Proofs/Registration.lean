import Mathlib.Data.List.Nodup
import Reckoner.Comparison
import Reckoner.Expression

set_option autoImplicit false

namespace Reckoner

section

variable {rules : List Rule} {rule : Rule} {inFront : Bool}

theorem any_name : rules.any (·.name == rule.name) = true ↔ rule.name ∈ rules.map (·.name) := by
  simp [List.any_eq_true]

theorem mem_place {x : Rule} :
    x ∈ place inFront rule rules ↔ x = rule ∨ x ∈ rules ∧ x.name ≠ rule.name := by
  simp only [place, any_name]
  by_cases hknown : rule.name ∈ rules.map (·.name)
  · obtain ⟨old, hold, hname⟩ := List.mem_map.1 hknown
    rw [if_pos hknown, List.mem_map]
    constructor
    · rintro ⟨y, hy, rfl⟩
      split_ifs with hn
      · exact .inl rfl
      · exact .inr ⟨hy, hn⟩
    · rintro (rfl | ⟨hx, hn⟩)
      · exact ⟨old, hold, if_pos hname⟩
      · exact ⟨x, hx, if_neg hn⟩
  · have hother (hx : x ∈ rules) : x.name ≠ rule.name := fun hn =>
      hknown (hn ▸ List.mem_map_of_mem hx)
    rw [if_neg hknown, and_iff_left_of_imp hother]
    cases inFront <;> simp [or_comm]

theorem names_place : (place inFront rule rules).map (·.name) =
    if rule.name ∈ rules.map (·.name) then rules.map (·.name)
    else if inFront then rule.name :: rules.map (·.name) else rules.map (·.name) ++ [rule.name] := by
  have hsame (old : Rule) : (if old.name = rule.name then rule else old).name = old.name := by
    split_ifs with h
    · exact h.symm
    · rfl
  simp only [place, any_name]
  split_ifs <;> simp [hsame]

theorem place_of_mem (hn : (rules.map (·.name)).Nodup) (h : rule ∈ rules) (inFront : Bool) :
    place inFront rule rules = rules := by
  have hsame : ∀ old ∈ rules, (if old.name = rule.name then rule else old) = old := by
    intro old hm
    split_ifs with hname
    · exact (List.inj_on_of_nodup_map hn hm h hname).symm
    · rfl
  rw [place, if_pos (any_name.2 (List.mem_map_of_mem h)), List.map_congr_left hsame, List.map_id']

end

namespace Registry

variable {r r' : Registry} {g : Registration} {gs : List Registration}

theorem register_frozen (h : r.frozen = true) (g : Registration) :
    r.register g = .error (.config "registry is frozen") := if_pos h

theorem register_checked (hf : r.frozen = false) (hg : g.check = .ok ()) :
    r.register g = .ok (r.insert g) := by
  simp only [register, hf, Bool.false_eq_true, if_false, hg]

theorem register_ok (h : r.register g = .ok r') : g.check = .ok () ∧ r' = r.insert g := by
  simp only [register] at h
  split at h
  · cases h
  · split at h
    · cases h
    · next hcheck =>
      cases h
      exact ⟨hcheck, rfl⟩

theorem insert_frozen (r : Registry) (g : Registration) : (r.insert g).frozen = r.frozen := by
  cases g <;> rfl

theorem insertAll_cons (r : Registry) (g : Registration) (gs : List Registration) :
    r.insertAll (g :: gs) = (r.insert g).insertAll gs := rfl

theorem insertAll_frozen (r : Registry) (gs : List Registration) :
    (r.insertAll gs).frozen = r.frozen := by
  induction gs generalizing r with
  | nil => rfl
  | cons g gs ih => rw [insertAll_cons, ih, insert_frozen]

theorem insertAll_sigil (r : Registry) (gs : List Registration) :
    (r.insertAll gs).sigil = r.sigil := by
  induction gs generalizing r with
  | nil => rfl
  | cons g gs ih =>
    have hg : (r.insert g).sigil = r.sigil := by cases g <;> rfl
    rw [insertAll_cons, ih, hg]

theorem registerAll_frozen (h : r.frozen = true) (g : Registration) (gs : List Registration) :
    r.registerAll (g :: gs) = (.error (.config "registry is frozen"), r, []) := by
  simp only [registerAll, register_frozen h]

theorem registerAll_checked (hf : r.frozen = false) (hg : ∀ g ∈ gs, g.check = .ok ()) :
    r.registerAll gs = (.ok (), r.insertAll gs, gs) := by
  induction gs generalizing r with
  | nil => rfl
  | cons g gs ih =>
    obtain ⟨hhead, htail⟩ := List.forall_mem_cons.1 hg
    have hrest := ih ((r.insert_frozen g).trans hf) htail
    simp only [registerAll, register_checked hf hhead, hrest]
    rfl

end Registry

theorem Comparison.check_registrations : ∀ g ∈ registrations, g.check = .ok () := by
  simp only [registrations, List.forall_mem_append, List.forall_mem_map, List.forall_mem_cons]
  refine ⟨fun c _ => ?_, rfl, rfl, List.forall_mem_nil _⟩
  cases c <;> rfl

/-- The comparisons are registered all or none. -/
theorem Registry.registerAll_comparisons (r : Registry) :
    r.registerAll Comparison.registrations =
      if r.frozen then (.error (.config "registry is frozen"), r, [])
      else (.ok (), r.insertAll Comparison.registrations, Comparison.registrations) := by
  cases hf : r.frozen with
  | true => exact registerAll_frozen hf _ _
  | false => exact registerAll_checked hf Comparison.check_registrations

theorem Registry.resolveAll_freeze (r : Registry) (preceding : List Token) (ls : List String) :
    r.freeze.resolveAll preceding ls = r.resolveAll preceding ls := by
  induction ls generalizing preceding with
  | nil => rfl
  | cons l ls ih =>
    have hl : r.freeze.resolve l preceding = r.resolve l preceding := rfl
    simp only [resolveAll, hl, ih]

theorem Registry.tokens_freeze (r : Registry) (text : String) :
    r.freeze.tokens text = r.tokens text := by
  have hl : r.freeze.lexemes text = r.lexemes text := rfl
  simp only [tokens, hl, resolveAll_freeze]

theorem Expression.compile_freeze (r : Registry) (maxDepth : Nat) (text : String) :
    compile r.freeze maxDepth text = compile r maxDepth text := by
  simp only [compile, Registry.tokens_freeze]

end Reckoner

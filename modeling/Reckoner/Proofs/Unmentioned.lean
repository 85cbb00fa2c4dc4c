import Reckoner.Proofs.Separation

set_option autoImplicit false

namespace Reckoner

def Occurs (part text : String) : Prop := part.toList <:+: text.toList

/-- A literal under a new name, or a function, that does not stand in the text. -/
inductive Registration.Unmentioned (r : Registry) (text : String) : Registration → Prop where
  | token {name literal : String} (build : String → Except Error Token) : name ∉ r.ruleNames →
      ¬ Occurs literal text → Unmentioned r text (.token name (.literal literal) build)
  | operator {name literal : String} (o : Operator) : name ∉ r.ruleNames →
      ¬ Occurs literal text → Unmentioned r text (.operator name (.literal literal) o)
  | function {name : String} (minimum : Int) (variadic : Bool)
      (call : List Value → Except Error Value) :
      ¬ Occurs name text → Unmentioned r text (.function name minimum variadic call)

/-- Two registries have the same symbols among the parts of a text, and read each part alike. -/
structure Registry.Agrees (text : String) (r r' : Registry) : Prop where
  sigil : r'.sigil = r.sigil
  symbols : ∀ s, Occurs s text → (r'.HasSymbol s ↔ r.HasSymbol s)
  resolve : ∀ s, Occurs s text → ∀ preceding called,
    r'.resolve s preceding called = r.resolve s preceding called

section

variable {L L' : List Char → Prop} {IsSymbol IsSymbol' : String → Prop} {cs l after : List Char}
  {c sigil : Char} {answer : Except Error (List String)} {ls : List String}

theorem Longest.congr (h : Longest L cs l) (hL : ∀ m, m <+: cs → (L m ↔ L' m)) :
    Longest L' cs l :=
  ⟨h.front, (hL l h.front).1 h.mem, fun m hm hmem => h.longest m hm ((hL m hm).2 hmem)⟩

theorem Leads.congr (h : Leads sigil IsSymbol c after l)
    (hs : ∀ m, m <+: c :: after → (IsSymbol (.ofList m) ↔ IsSymbol' (.ofList m))) :
    Leads sigil IsSymbol' c after l := by
  cases h with
  | numeral hshape hl => exact .numeral hshape hl
  | identifier hshape hl => exact .identifier hshape hl
  | reference hshape hl => exact .reference hshape hl
  | quotation hshape hq hafter => exact .quotation hshape hq hafter
  | symbol hshape hl => exact .symbol hshape (hl.congr hs)
  | single hshape hno => exact .single hshape fun m hm hmem => hno m hm ((hs m hm).2 hmem)

/-- Only the symbols that stand in a text have a part in how it is split. -/
theorem Splits.congr (h : Splits sigil IsSymbol cs answer)
    (hs : ∀ m, m <:+: cs → (IsSymbol (.ofList m) ↔ IsSymbol' (.ofList m))) :
    Splits sigil IsSymbol' cs answer := by
  induction h with
  | blank hw => exact .blank hw
  | @lexeme w after l rest c answer hw hc hl hparts _ ih =>
    have hafter : c :: after <:+: w ++ c :: after := (List.suffix_append w _).isInfix
    have hrest : rest <:+: c :: after := by
      rw [hparts]
      exact (List.suffix_append l rest).isInfix
    exact .lexeme hw hc (hl.congr fun m hm => hs m (hm.isInfix.trans hafter)) hparts
      (ih fun m hm => hs m ((hm.trans hrest).trans hafter))
  | unclosed hw hc hshape hq => exact .unclosed hw hc hshape hq

theorem Splits.occurs (h : Splits sigil IsSymbol cs (.ok ls)) : ∀ l ∈ ls, l.toList <:+: cs := by
  generalize hok : Except.ok ls = first at h
  induction h generalizing ls with
  | blank =>
    cases hok
    exact List.forall_mem_nil _
  | @lexeme w after l rest c _ hw hc hl hparts _ ih =>
    obtain ⟨ls, rfl, rfl⟩ := ok_lexeme hok.symm
    rw [hparts]
    refine List.forall_mem_cons.2 ⟨?_, fun m hm => ?_⟩
    · rw [String.toList_ofList, ← List.append_assoc]
      exact List.infix_append w l rest
    · rw [← List.append_assoc]
      exact (ih rfl m hm).trans (List.suffix_append (w ++ l) rest).isInfix
  | unclosed => cases hok

end

theorem find?_place {rules : List Rule} {rule : Rule} {p : Rule → Bool} (inFront : Bool)
    (hn : rule.name ∉ rules.map (·.name)) (hp : p rule = false) :
    (place inFront rule rules).find? p = rules.find? p := by
  rw [place, if_neg (mt any_name.1 hn)]
  cases inFront with
  | true => simp [hp]
  | false => simp [List.find?_append, hp]

namespace Registry

variable {r r' : Registry} {text : String}

theorem agrees_place {rule : Rule} {literal : String} (inFront : Bool)
    (hn : rule.name ∉ r.ruleNames) (hm : rule.matcher = .literal literal)
    (ho : ¬ Occurs literal text) :
    Agrees text r { r with rules := place inFront rule r.rules } where
  sigil := rfl
  symbols s hs := by
    have hother : s ≠ literal := by
      rintro rfl
      exact ho hs
    constructor
    · rintro ⟨x, hx, hliteral, hword⟩
      obtain rfl | ⟨hx, -⟩ := mem_place.1 hx
      · rw [hm] at hliteral
        exact absurd (Matcher.literal.inj hliteral).symm hother
      · exact ⟨x, hx, hliteral, hword⟩
    · rintro ⟨x, hx, hliteral, hword⟩
      have hname : x.name ≠ rule.name := fun h => hn (h ▸ List.mem_map_of_mem hx)
      exact ⟨x, mem_place.2 (.inr ⟨hx, hname⟩), hliteral, hword⟩
  resolve s hs preceding called := by
    have hrefused : rule.matcher.accepts s preceding = false := by
      rw [hm, Matcher.accepts, beq_eq_false_iff_ne]
      rintro rfl
      exact ho hs
    have hf : ({ r with rules := place inFront rule r.rules } : Registry).function? s =
        r.function? s := rfl
    have hfind := find?_place (p := (·.matcher.accepts s preceding)) inFront hn hrefused
    simp only [Registry.resolve, resolveFunction, hf, hfind]

theorem agrees_function {name : String} (minimum : Int) (variadic : Bool)
    (call : List Value → Except Error Value) (ho : ¬ Occurs name text) :
    Agrees text r (r.insert (.function name minimum variadic call)) where
  sigil := rfl
  symbols _ _ := .rfl
  resolve s hs preceding called := by
    have hother : name ≠ s := by
      rintro rfl
      exact ho hs
    have hf : (r.insert (.function name minimum variadic call)).function? s = r.function? s := by
      rw [function?, insert, Bindings.get?_set, if_neg hother, function?]
    have hrules : (r.insert (.function name minimum variadic call)).rules = r.rules := rfl
    simp only [Registry.resolve, resolveFunction, hf, hrules]

theorem agrees_insert {g : Registration} (h : g.Unmentioned r text) :
    Agrees text r (r.insert g) := by
  cases h with
  | token build hn ho => exact agrees_place false hn rfl ho
  | operator o hn ho => exact agrees_place true hn rfl ho
  | function minimum variadic call ho => exact agrees_function minimum variadic call ho

namespace Agrees

theorem lexemes (h : Agrees text r r') (hr : r.Reachable) (hr' : r'.Reachable) :
    r'.lexemes text = r.lexemes text := by
  have hsplits := (lexemes_iff hr).1 (Eq.refl (r.lexemes text))
  rw [lexemes_iff hr', h.sigil]
  refine hsplits.congr fun m hm => ?_
  rw [mem_symbols, mem_symbols]
  exact (h.symbols _ (by rwa [Occurs, String.toList_ofList])).symm

theorem resolveAll (h : Agrees text r r') {ls : List String} (hl : ∀ l ∈ ls, Occurs l text)
    (preceding : List Token) : r'.resolveAll preceding ls = r.resolveAll preceding ls := by
  induction ls generalizing preceding with
  | nil => rfl
  | cons l ls ih =>
    obtain ⟨hhead, htail⟩ := List.forall_mem_cons.1 hl
    simp only [Registry.resolveAll, h.resolve l hhead, ih htail]

theorem tokens (h : Agrees text r r') (hr : r.Reachable) (hr' : r'.Reachable) :
    r'.tokens text = r.tokens text := by
  rw [Registry.tokens, Registry.tokens, h.lexemes hr hr']
  cases hls : r.lexemes text with
  | error e => rfl
  | ok ls => exact h.resolveAll ((lexemes_iff hr).1 hls).occurs []

end Agrees

/-- A text is split, resolved and compiled as it was before a registration that it does not
mention. -/
theorem Reachable.register_unmentioned {g : Registration} (h : r.Reachable)
    (hg : r.register g = .ok r') (hu : g.Unmentioned r text) :
    r'.lexemes text = r.lexemes text ∧ r'.tokens text = r.tokens text ∧
      ∀ maxDepth, Expression.compile r' maxDepth text = Expression.compile r maxDepth text := by
  have hr' : r'.Reachable := h.register hg
  obtain ⟨-, rfl⟩ := register_ok hg
  have hagrees := agrees_insert hu
  have htokens := hagrees.tokens h hr'
  refine ⟨hagrees.lexemes h hr', htokens, fun maxDepth => ?_⟩
  rw [Expression.compile, Expression.compile, htokens]

theorem Reachable.register_unmentioned_sign : (Registry.default {}).Reachable ∧
    (Registration.operator "next" (.literal "++") Builtin.plus).Unmentioned
      (Registry.default {}) "1 + +2" ∧
    ∃ r', (Registry.default {}).register (.operator "next" (.literal "++") Builtin.plus) = .ok r' ∧
      r'.HasSymbol "++" ∧ r'.lexemes "1 + +2" = .ok ["1", "+", "+", "2"] := by
  have h := reachable_default {}
  have hu : (Registration.operator "next" (.literal "++") Builtin.plus).Unmentioned
      (Registry.default {}) "1 + +2" := by
    refine .operator _ ?_ ?_
    · rw [ruleNames, rules_default]
      decide
    · rw [Occurs]
      decide
  have hg : (Registry.default {}).register (.operator "next" (.literal "++") Builtin.plus) =
      .ok ((Registry.default {}).insert (.operator "next" (.literal "++") Builtin.plus)) :=
    register_checked (insertAll_frozen _ _) rfl
  have hlexemes : (Registry.default {}).lexemes "1 + +2" = .ok ["1", "+", "+", "2"] := by
    rw [lexemes_default, scan_cons rfl rfl (scan_cons rfl rfl (scan_cons rfl rfl
      (scan_cons rfl rfl (scan_nil rfl))))]
    rfl
  let next : Rule := ⟨"next", .literal "++", fun _ => .ok (.operator Builtin.plus)⟩
  have hrule : next ∈ place true next (Registry.default {}).rules := mem_place.2 (.inl rfl)
  have hword : ∀ c ∈ "++".toList, isWordPart c = false := by
    have hplus : isWordPart '+' = false := rfl
    simp [hplus]
  exact ⟨h, hu, _, hg, ⟨next, hrule, rfl, hword⟩,
    (h.register_unmentioned hg hu).1.trans hlexemes⟩

end Registry

end Reckoner

/-! Sets of code points, each written as the ascending list of the points where membership
changes: `[0x30, 0x3A]` is the set of the ASCII digits. A search stops at the first switch
above the point, so that low points cost little in a long table.
-/

set_option autoImplicit false

namespace Reckoner.CodePoints

/-- Membership of `c` when `inside` tells membership below the first switch. -/
def within (inside : Bool) : List Nat → Nat → Bool
  | [], _ => inside
  | s :: ss, c => if c < s then inside else within (!inside) ss c

def contains (switches : List Nat) (c : Char) : Bool := within false switches c.toNat

theorem within_not (inside : Bool) (switches : List Nat) (c : Nat) :
    within (!inside) switches c = !within inside switches c := by
  induction switches generalizing inside with
  | nil => rfl
  | cons s ss ih => by_cases h : c < s <;> simp [within, h, ih]

theorem contains_first {lo hi : Nat} {switches : List Nat} {c : Char}
    (hl : lo ≤ c.toNat) (hh : c.toNat < hi) : contains (lo :: hi :: switches) c = true := by
  simp [contains, within, Nat.not_lt.2 hl, hh]

def switchAt (p : Nat) (now later : Bool) (rest : List Nat) : List Nat :=
  if later = now then rest else p :: rest

def combine (op : Bool → Bool → Bool) : (inA inB : Bool) → List Nat → List Nat → List Nat
  | _, _, [], [] => []
  | inA, inB, a :: as, [] =>
    switchAt a (op inA inB) (op (!inA) inB) (combine op (!inA) inB as [])
  | inA, inB, [], b :: bs =>
    switchAt b (op inA inB) (op inA (!inB)) (combine op inA (!inB) [] bs)
  | inA, inB, a :: as, b :: bs =>
    if a < b then switchAt a (op inA inB) (op (!inA) inB) (combine op (!inA) inB as (b :: bs))
    else if b < a then switchAt b (op inA inB) (op inA (!inB)) (combine op inA (!inB) (a :: as) bs)
    else switchAt a (op inA inB) (op (!inA) (!inB)) (combine op (!inA) (!inB) as bs)
  termination_by _ _ as bs => as.length + bs.length

theorem within_of_lt {inside : Bool} {switches : List Nat} {c : Nat}
    (h : ∀ s ∈ switches, c < s) : within inside switches c = inside := by
  cases switches with
  | nil => rfl
  | cons s ss => simp [within, h s List.mem_cons_self]

theorem within_switchAt {now later : Bool} {p c : Nat} {rest : List Nat}
    (h : c < p → within later rest c = later) :
    within now (switchAt p now later rest) c = if c < p then now else within later rest c := by
  by_cases hn : later = now
  · subst hn
    by_cases hc : c < p <;> simp [switchAt, hc, h]
  · have hb : (!now) = later := by cases later <;> cases now <;> simp_all
    simp [switchAt, hn, within, hb]

theorem within_combine (op : Bool → Bool → Bool) (c : Nat) (inA inB : Bool) (as bs : List Nat)
    (ha : as.Pairwise (· < ·)) (hb : bs.Pairwise (· < ·)) :
    within (op inA inB) (combine op inA inB as bs) c =
      op (within inA as c) (within inB bs c) := by
  have below {p : Nat} {i : Bool} {ss : List Nat} (h : ∀ s ∈ ss, p < s) (hc : c < p) :
      within i ss c = i := within_of_lt fun s hs => Nat.lt_trans hc (h s hs)
  fun_induction combine op inA inB as bs with
  | case1 => rfl
  | case2 inA inB a as ih =>
    obtain ⟨hlt, has⟩ := List.pairwise_cons.1 ha
    rw [within_switchAt fun hc => by rw [ih has hb, below hlt hc]; rfl, ih has hb]
    by_cases hc : c < a <;> simp [within, hc]
  | case3 inA inB b bs ih =>
    obtain ⟨hlt, hbs⟩ := List.pairwise_cons.1 hb
    rw [within_switchAt fun hc => by rw [ih ha hbs, below hlt hc]; rfl, ih ha hbs]
    by_cases hc : c < b <;> simp [within, hc]
  | case4 inA inB a as b bs hab ih =>
    obtain ⟨hlt, has⟩ := List.pairwise_cons.1 ha
    have hB (hc : c < a) : within inB (b :: bs) c = inB := by simp [within, Nat.lt_trans hc hab]
    rw [within_switchAt fun hc => by rw [ih has hb, below hlt hc, hB hc], ih has hb]
    by_cases hc : c < a
    · rw [if_pos hc, hB hc]; simp [within, hc]
    · rw [if_neg hc]; simp [within, hc]
  | case5 inA inB a as b bs _ hba ih =>
    obtain ⟨hlt, hbs⟩ := List.pairwise_cons.1 hb
    have hA (hc : c < b) : within inA (a :: as) c = inA := by simp [within, Nat.lt_trans hc hba]
    rw [within_switchAt fun hc => by rw [ih ha hbs, below hlt hc, hA hc], ih ha hbs]
    by_cases hc : c < b
    · rw [if_pos hc, hA hc]; simp [within, hc]
    · rw [if_neg hc]; simp [within, hc]
  | case6 inA inB a as b bs hab hba ih =>
    have he : a = b := by omega
    subst he
    obtain ⟨hlt, has⟩ := List.pairwise_cons.1 ha
    obtain ⟨hlt', hbs⟩ := List.pairwise_cons.1 hb
    rw [within_switchAt fun hc => by rw [ih has hbs, below hlt hc, below hlt' hc], ih has hbs]
    by_cases hc : c < a <;> simp [within, hc]

def ofPoints : List Nat → List Nat
  | [] => []
  | p :: ps =>
    match ofPoints ps with
    | [] => [p, p + 1]
    | q :: qs => if p = q then q :: qs else if p + 1 = q then p :: qs else p :: (p + 1) :: q :: qs

def runs : List Nat → List (Nat × Nat)
  | a :: b :: ss => (a, b) :: runs ss
  | _ => []

end Reckoner.CodePoints

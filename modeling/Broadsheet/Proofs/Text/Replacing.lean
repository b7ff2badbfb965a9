import Broadsheet.Text.Search

/-!
# Broadsheet.Proofs.Text.Replacing

Rewriting what is found in a text, from left to right.  Replacing a text
everywhere is one case of it, and taking out whatever has a certain form is
another, so `rewriteFrom` does it for any finder.

* `rewriteFrom_eq_self_iff` — if all that is written is shorter than what it
  stands for, a text stays as it is exactly if nothing is found in it;
* `rewriteFrom_append_cons` — a character at which every find ends divides the
  work: what stands before it and what stands after it are rewritten apart.
-/

namespace Broadsheet

theorem startsWith_iff {p s : List Char} : startsWith p s = true ↔ p <+: s := by
  rw [startsWith, Option.isSome_iff_exists]
  exact ⟨fun ⟨r, hr⟩ => ⟨r, (after?_eq_some_iff.mp hr).symm⟩,
    fun ⟨r, hr⟩ => ⟨r, after?_eq_some_iff.mpr hr.symm⟩⟩

/-! ## Occurrences -/

theorem contains_iff {p s : List Char} : contains p s = true ↔ p <:+: s := by
  induction s with
  | nil => cases p <;> simp [contains, cut?, after?]
  | cons c s ih =>
      rw [List.infix_cons_iff, ← ih, ← startsWith_iff, startsWith, contains, cut?]
      cases after? p (c :: s) <;> simp [contains]

/-- A beginning does not reach beyond a character that it does not hold. -/
theorem prefix_append_cons_iff {c : Char} {s : List Char} : (p a : List Char) → c ∉ p →
    (p <+: a ++ c :: s ↔ p <+: a)
  | [], a, _ => by simp
  | d :: p, [], hp => by
      have hc : d ≠ c := fun h => hp (by simp [h])
      simp [hc]
  | d :: p, b :: a, hp => by
      have ih := prefix_append_cons_iff p a (s := s) fun h => hp (List.mem_cons_of_mem d h)
      simp [List.cons_prefix_cons, ih]

/-- Nor does an ending. -/
theorem suffix_append_cons_iff {c : Char} {p a s : List Char} (hc : c ∉ p) :
    p <:+ a ++ c :: s ↔ p <:+ s := by
  have h := prefix_append_cons_iff (s := a.reverse) p.reverse s.reverse (by simpa using hc)
  have hreverse : (a ++ c :: s).reverse = s.reverse ++ c :: a.reverse := by simp
  rwa [← hreverse, List.reverse_prefix, List.reverse_prefix] at h

/-- A text that does not hold a character stands on one side of it. -/
theorem infix_append_cons_iff {c : Char} {p a s : List Char} (hc : c ∉ p) (hp : p ≠ []) :
    p <:+: a ++ c :: s ↔ p <:+: a ∨ p <:+: s := by
  have hprefix : ¬ p <+: c :: s := fun h =>
    hp (List.prefix_nil.mp ((prefix_append_cons_iff (a := []) p hc).mp h))
  constructor
  · intro h
    obtain h | h | ⟨l, r, rfl, hl, hr⟩ := List.infix_append_iff.mp h
    · exact .inl h
    · exact .inr ((List.infix_cons_iff.mp h).resolve_left hprefix)
    · obtain rfl : r = [] := List.prefix_nil.mp
        ((prefix_append_cons_iff (a := []) r fun h => hc (List.mem_append_right l h)).mp hr)
      exact .inl (by simpa using hl.isInfix)
  · rintro (h | h)
    · exact h.trans (List.infix_append' [] a _)
    · exact h.trans ⟨a ++ [c], [], by simp⟩

theorem infix_cons_iff_of_notMem {c : Char} {p s : List Char} (hc : c ∉ p) (hp : p ≠ []) :
    p <:+: c :: s ↔ p <:+: s := by
  have h := infix_append_cons_iff (a := []) (s := s) hc hp
  rwa [List.nil_append, List.infix_nil, or_iff_right hp] at h

/-- A text is not found where its first character does not stand. -/
theorem infix_append_iff_of_notMem {c : Char} {p s : List Char} : {a : List Char} → c ∉ a →
    (c :: p <:+: a ++ s ↔ c :: p <:+: s)
  | [], _ => by simp
  | d :: a, h => by
      obtain ⟨hd, ha⟩ : c ≠ d ∧ c ∉ a := by simpa using h
      simp [List.infix_cons_iff (a := d), hd, infix_append_iff_of_notMem ha]

/-- Texts that go on with a character are divided where it first stands. -/
theorem append_cons_inj_of_notMem {c : Char} {s t : List Char} : {p q : List Char} → c ∉ p →
    c ∉ q → (p ++ c :: s = q ++ c :: t ↔ p = q ∧ s = t)
  | [], [], _, _ => by simp
  | [], d :: q, _, hq => by
      have hd : c ≠ d := fun h => hq (by simp [h])
      simp [hd]
  | d :: p, [], hp, _ => by
      have hd : d ≠ c := fun h => hp (by simp [h])
      simp [hd]
  | d :: p, e :: q, hp, hq => by
      have ih := append_cons_inj_of_notMem (s := s) (t := t)
        (fun h => hp (List.mem_cons_of_mem d h)) (fun h => hq (List.mem_cons_of_mem e h))
      simp [ih, and_assoc]

/-- A text does not occur before its first occurrence. -/
theorem not_infix_of_cut? {p s before rest : List Char} (hp : p ≠ [])
    (h : cut? p s = some (before, rest)) : ¬ p <:+: before := by
  fun_induction cut? p s generalizing before with
  | case1 =>
    obtain ⟨r, -, he⟩ := Option.map_eq_some_iff.mp h
    cases he
    simpa using hp
  | case2 c cs r hr =>
    cases h
    simpa using hp
  | case3 c cs hn ih =>
    obtain ⟨⟨b, r⟩, hr, he⟩ := Option.map_eq_some_iff.mp h
    cases he
    rw [List.infix_cons_iff, not_or]
    refine ⟨fun hprefix => ?_, ih hr⟩
    have hstart : startsWith p (c :: cs) = true := by
      rw [startsWith_iff, eq_of_cut? hr]
      exact hprefix.trans ⟨p ++ rest, by simp⟩
    simp [startsWith, hn] at hstart

/-- A text that has its first character nowhere else is found where it first occurs. -/
theorem cut?_of_not_infix {c : Char} {p : List Char} (hc : c ∉ p) (s : List Char) :
    (b : List Char) → ¬ c :: p <:+: b → cut? (c :: p) (b ++ c :: (p ++ s)) = some (b, s)
  | [], _ => by
      have hafter : after? (c :: p) (c :: (p ++ s)) = some s := after?_eq_some_iff.mpr rfl
      simp [cut?, hafter]
  | d :: b, h => by
      have ih := cut?_of_not_infix hc s b fun hb => h (hb.trans (List.suffix_cons d b).isInfix)
      have hafter : after? (c :: p) (d :: (b ++ c :: (p ++ s))) = none := by
        rw [Option.eq_none_iff_forall_ne_some]
        intro r hr
        have hstart : c :: p <+: d :: (b ++ c :: (p ++ s)) :=
          ⟨r, (after?_eq_some_iff.mp hr).symm⟩
        rw [List.cons_prefix_cons, prefix_append_cons_iff p b hc] at hstart
        exact h (List.cons_prefix_cons.mpr hstart).isInfix
      rw [List.cons_append]
      simp only [cut?, hafter, ih, Option.map_some]

/-- A text is split where a character first stands. -/
theorem splitOnce_eq_some_iff {c : Char} {s a r : List Char} :
    splitOnce (· == c) s = some (a, r) ↔ s = a ++ c :: r ∧ c ∉ a := by
  constructor
  · intro h
    fun_induction splitOnce (· == c) s generalizing a with
    | case1 => simp at h
    | case2 d s hd =>
        obtain ⟨rfl, rfl⟩ : [] = a ∧ s = r := by simpa using h
        exact ⟨by simpa using hd, List.not_mem_nil⟩
    | case3 d s hd ih =>
        obtain ⟨⟨b, r⟩, hrest, he⟩ := Option.map_eq_some_iff.mp h
        cases he
        obtain ⟨rfl, hb⟩ := ih hrest
        have hne : c ≠ d := fun heq => hd (by simp [heq])
        exact ⟨rfl, by simp [hne, hb]⟩
  · rintro ⟨rfl, ha⟩
    induction a with
    | nil => simp [splitOnce]
    | cons b a ih =>
        obtain ⟨hb, ha⟩ : c ≠ b ∧ c ∉ a := by simpa using ha
        simp [splitOnce, Ne.symm hb, ih ha]

section Concat

/- A text that ends in a character it does not hold before can only be found where
that character stands. -/

variable {c : Char} {p : List Char} (hp : c ∉ p)

include hp

theorem after?_concat_eq_none {a : List Char} (ha : c ∉ a) (hne : a ≠ p) (s : List Char) :
    after? (p ++ [c]) (a ++ c :: s) = none := by
  rw [Option.eq_none_iff_forall_ne_some]
  intro rest hrest
  have hsplit := after?_eq_some_iff.mp hrest
  rw [List.append_assoc] at hsplit
  exact hne ((append_cons_inj_of_notMem ha hp).mp hsplit).1

theorem cut?_concat : (b : List Char) → c ∉ b → (s : List Char) →
    cut? (p ++ [c]) (b ++ (p ++ c :: s)) = some (b, s)
  | [], _, s => by
      have hafter : after? (p ++ [c]) (p ++ c :: s) = some s :=
        after?_eq_some_iff.mpr (by simp)
      obtain ⟨d, ds, hcons⟩ := List.exists_cons_of_ne_nil (l := p ++ c :: s) (by simp)
      rw [hcons] at hafter
      rw [List.nil_append, hcons]
      simp only [cut?, hafter]
  | d :: b, hb, s => by
      have ih := cut?_concat b (fun h => hb (List.mem_cons_of_mem d h)) s
      have hdb : c ∉ d :: b ++ p := by
        rw [List.mem_append, not_or]
        exact ⟨hb, hp⟩
      have hne : d :: b ++ p ≠ p := fun h => by
        have hlen := congrArg List.length h
        simp at hlen
        omega
      have hnone := after?_concat_eq_none hp hdb hne s
      rw [List.append_assoc, List.cons_append] at hnone
      rw [List.cons_append]
      simp only [cut?, hnone, ih, Option.map_some]

theorem cut?_concat_of_not_suffix : (a : List Char) → c ∉ a → ¬ p <:+ a → (s : List Char) →
    cut? (p ++ [c]) (a ++ c :: s) =
      (cut? (p ++ [c]) s).map fun found => (a ++ c :: found.1, found.2)
  | [], _, hsuffix, s => by
      have hne : [] ≠ p := fun h => hsuffix (h ▸ List.suffix_rfl)
      have hnone := after?_concat_eq_none hp List.not_mem_nil hne s
      rw [List.nil_append] at hnone ⊢
      simp only [cut?, hnone, List.nil_append]
  | d :: a, ha, hsuffix, s => by
      have ih := cut?_concat_of_not_suffix a (fun h => ha (List.mem_cons_of_mem d h))
        (fun h => hsuffix (h.trans (List.suffix_cons d a))) s
      have hne : d :: a ≠ p := fun h => hsuffix (h ▸ List.suffix_rfl)
      have hnone := after?_concat_eq_none hp ha hne s
      rw [List.cons_append] at hnone ⊢
      simp only [cut?, hnone, ih, Option.map_map, Function.comp_def, List.cons_append]

end Concat

/-! ## Rewriting -/

/-- What is to be rewritten at the beginning of a text: what is written for it,
and how many characters it has after its first one. -/
abbrev Finder := List Char → Option (List Char × Nat)

/-- Rewrites what is found, with `skip` characters of the last find still to be
passed over. -/
def rewriteFrom (find : Finder) : (skip : Nat) → List Char → List Char
  | _, [] => []
  | k + 1, _ :: cs => rewriteFrom find k cs
  | 0, c :: cs =>
    match find (c :: cs) with
    | some (q, k) => q ++ rewriteFrom find k cs
    | none => c :: rewriteFrom find 0 cs

/-- A finder that stays in the text and has less written for what it finds. -/
structure Finder.Shortens (find : Finder) : Prop where
  lt_length : ∀ {s q k}, find s = some (q, k) → k < s.length
  length_le : ∀ {s q k}, find s = some (q, k) → q.length ≤ k

variable {find : Finder}

/-- What is written comes from the text or is written for a find. -/
theorem notMem_rewriteFrom {c : Char} (hfind : ∀ {t q n}, find t = some (q, n) → c ∉ q) :
    (k : Nat) → (s : List Char) → c ∉ s → c ∉ rewriteFrom find k s
  | _, [], _ => by simp [rewriteFrom]
  | k + 1, d :: s, h => notMem_rewriteFrom hfind k s fun hs => h (List.mem_cons_of_mem d hs)
  | 0, d :: s, h => by
      have hrest (k : Nat) : c ∉ rewriteFrom find k s :=
        notMem_rewriteFrom hfind k s fun hs => h (List.mem_cons_of_mem d hs)
      rw [rewriteFrom]
      split
      · next q n hqn =>
          rw [List.mem_append, not_or]
          exact ⟨hfind hqn, hrest n⟩
      · rw [List.mem_cons, not_or]
        exact ⟨fun hd => h (by simp [hd]), hrest 0⟩

theorem length_rewriteFrom_le (hfind : find.Shortens) : (k : Nat) → (s : List Char) →
    (rewriteFrom find k s).length ≤ s.length - k
  | _, [] => by simp [rewriteFrom]
  | k + 1, d :: s => by
      have ih := length_rewriteFrom_le hfind k s
      simpa [rewriteFrom] using ih
  | 0, d :: s => by
      rw [rewriteFrom]
      split
      · next q k h =>
          have ih := length_rewriteFrom_le hfind k s
          have hk := hfind.lt_length h
          have hq := hfind.length_le h
          simp only [List.length_append, List.length_cons] at hk ⊢
          omega
      · have ih := length_rewriteFrom_le hfind 0 s
        simpa using ih

/-- A find makes the text shorter. -/
theorem length_rewriteFrom_lt (hfind : find.Shortens) {t : List Char} (ht : find t ≠ none) :
    (s : List Char) → t <:+ s → (rewriteFrom find 0 s).length < s.length
  | [], h => by
      obtain ⟨⟨q, k⟩, hqk⟩ := Option.ne_none_iff_exists'.mp ht
      rw [List.suffix_nil.mp h] at hqk
      exact absurd (hfind.lt_length hqk) (Nat.not_lt_zero k)
  | d :: s, h => by
      rw [rewriteFrom]
      split
      · next q k hqk =>
          have hle := length_rewriteFrom_le hfind k s
          have hk := hfind.lt_length hqk
          have hq := hfind.length_le hqk
          simp only [List.length_append, List.length_cons] at hk ⊢
          omega
      · next hnone =>
          have hsuffix : t <:+ s := by
            refine (List.suffix_cons_iff.mp h).resolve_left ?_
            rintro rfl
            exact ht hnone
          have ih := length_rewriteFrom_lt hfind ht s hsuffix
          simpa using ih

theorem rewriteFrom_of_forall_eq_none : (s : List Char) → (∀ t, t <:+ s → find t = none) →
    rewriteFrom find 0 s = s
  | [], _ => rfl
  | d :: s, h => by
      have ih := rewriteFrom_of_forall_eq_none s fun t ht =>
        h t (ht.trans (List.suffix_cons d s))
      rw [rewriteFrom, h _ List.suffix_rfl, ih]

/-- Nothing is found in a text that does not become shorter. -/
theorem forall_eq_none_of_length_le (hfind : find.Shortens) {s : List Char}
    (h : s.length ≤ (rewriteFrom find 0 s).length) : ∀ t, t <:+ s → find t = none := by
  intro t ht
  rw [Option.eq_none_iff_forall_ne_some]
  intro found hfound
  have hlt := length_rewriteFrom_lt hfind (t := t) (by simp [hfound]) s ht
  exact Nat.not_lt_of_le h hlt

/-- What is passed over is of no account. -/
theorem rewriteFrom_eq_drop : (k : Nat) → (s : List Char) →
    rewriteFrom find k s = rewriteFrom find 0 (s.drop k)
  | 0, s => rfl
  | k + 1, [] => rfl
  | k + 1, d :: s => by rw [rewriteFrom, List.drop_succ_cons, rewriteFrom_eq_drop k s]

theorem rewriteFrom_cons_of_none {c : Char} {s : List Char} (h : find (c :: s) = none) :
    rewriteFrom find 0 (c :: s) = c :: rewriteFrom find 0 s := by
  rw [rewriteFrom, h]

theorem rewriteFrom_cons_of_some {c : Char} {s q : List Char} {k : Nat}
    (h : find (c :: s) = some (q, k)) :
    rewriteFrom find 0 (c :: s) = q ++ rewriteFrom find 0 (s.drop k) := by
  rw [rewriteFrom, h]
  simp only
  rw [rewriteFrom_eq_drop]

/-- Induction along a text that is rewritten: a character is passed over in which nothing was
found, or all that was found. -/
@[elab_as_elim]
theorem Finder.induction (find : Finder) {motive : List Char → Prop} (nil : motive [])
    (passed : ∀ c s, find (c :: s) = none → motive s → motive (c :: s))
    (found : ∀ c s q k, find (c :: s) = some (q, k) → motive (s.drop k) → motive (c :: s))
    (s : List Char) : motive s := by
  induction hn : s.length using Nat.strongRecOn generalizing s with
  | ind n ih =>
    subst hn
    cases s with
    | nil => exact nil
    | cons c s =>
        cases hfound : find (c :: s) with
        | none => exact passed c s hfound (ih s.length (by simp) s rfl)
        | some r =>
            have hshorter : (s.drop r.2).length < (c :: s).length := by
              simp only [List.length_drop, List.length_cons]
              omega
            exact found c s r.1 r.2 hfound (ih _ hshorter _ rfl)

/-- A beginning in which nothing is found stays as it is. -/
theorem rewriteFrom_append_of_forall_eq_none {s : List Char} : (a : List Char) →
    (∀ t, t <:+ a → t ≠ [] → find (t ++ s) = none) →
      rewriteFrom find 0 (a ++ s) = a ++ rewriteFrom find 0 s
  | [], _ => rfl
  | d :: a, h => by
      have ih := rewriteFrom_append_of_forall_eq_none a fun t ht =>
        h t (ht.trans (List.suffix_cons d a))
      have hnone : find (d :: (a ++ s)) = none := h (d :: a) List.suffix_rfl (by simp)
      rw [List.cons_append, rewriteFrom, hnone, ih, List.cons_append]

theorem rewriteFrom_eq_self_iff (hfind : find.Shortens) (s : List Char) :
    rewriteFrom find 0 s = s ↔ ∀ t, t <:+ s → find t = none :=
  ⟨fun h => forall_eq_none_of_length_le hfind (Nat.le_of_eq (congrArg List.length h.symm)),
    rewriteFrom_of_forall_eq_none s⟩

/-- Two passes leave a text as it is only if each of them does. -/
theorem rewriteFrom_rewriteFrom_eq_self_iff {find' : Finder} (hfind : find.Shortens)
    (hfind' : find'.Shortens) (s : List Char) :
    rewriteFrom find' 0 (rewriteFrom find 0 s) = s ↔
      rewriteFrom find 0 s = s ∧ rewriteFrom find' 0 s = s := by
  constructor
  · intro h
    have hle := length_rewriteFrom_le hfind' 0 (rewriteFrom find 0 s)
    rw [h, Nat.sub_zero] at hle
    have hfirst : rewriteFrom find 0 s = s :=
      rewriteFrom_of_forall_eq_none s (forall_eq_none_of_length_le hfind hle)
    rw [hfirst] at h
    exact ⟨hfirst, h⟩
  · rintro ⟨hfirst, hsecond⟩
    rw [hfirst, hsecond]

/-- What stands before a character at which every find ends, and what stands
after it, are rewritten apart. -/
theorem rewriteFrom_append_cons (hfind : find.Shortens) {c : Char} {s : List Char}
    (hc : ∀ a, find (a ++ c :: s) = find a) : (k : Nat) → (a : List Char) → k ≤ a.length →
      rewriteFrom find k (a ++ c :: s) = rewriteFrom find k a ++ c :: rewriteFrom find 0 s
  | 0, [], _ => by
      have hnil : find [] = none := by
        rw [Option.eq_none_iff_forall_ne_some]
        rintro ⟨q, k⟩ hqk
        exact Nat.not_lt_zero k (hfind.lt_length hqk)
      have hnone : find (c :: s) = none := (hc []).trans hnil
      simp [rewriteFrom, hnone]
  | k + 1, [], h => by simp at h
  | k + 1, d :: a, h => by
      have ih := rewriteFrom_append_cons hfind hc k a (by simpa using h)
      simpa [rewriteFrom] using ih
  | 0, d :: a, _ => by
      have hsame : find (d :: (a ++ c :: s)) = find (d :: a) := hc (d :: a)
      rw [List.cons_append, rewriteFrom, rewriteFrom, hsame]
      split
      · next q k hqk =>
          have hk := hfind.lt_length hqk
          rw [List.length_cons, Nat.lt_succ_iff] at hk
          rw [rewriteFrom_append_cons hfind hc k a hk, List.append_assoc]
      · rw [rewriteFrom_append_cons hfind hc 0 a (Nat.zero_le _), List.cons_append]

/-! ## Replacing -/

/-- Finds a text, for which another one is written. -/
def occurrence? (p q : List Char) : Finder := fun s =>
  if startsWith p s then some (q, p.length - 1) else none

theorem replaceFrom_eq (p q : List Char) : (k : Nat) → (s : List Char) →
    replaceFrom p q k s = rewriteFrom (occurrence? p q) k s
  | _, [] => by simp [replaceFrom, rewriteFrom]
  | k + 1, d :: s => by rw [replaceFrom, rewriteFrom, replaceFrom_eq p q k s]
  | 0, d :: s => by
      rw [replaceFrom, rewriteFrom, occurrence?, replaceFrom_eq p q _ s, replaceFrom_eq p q 0 s]
      split <;> rfl

section Occurrence

variable {p q : List Char}

theorem occurrence?_eq_none_iff {s : List Char} : occurrence? p q s = none ↔ ¬ p <+: s := by
  rw [← startsWith_iff]
  simp [occurrence?]

theorem occurrence?_eq_some_iff {s q' : List Char} {k : Nat} :
    occurrence? p q s = some (q', k) ↔ p <+: s ∧ q' = q ∧ k = p.length - 1 := by
  rw [← startsWith_iff, occurrence?]
  split
  · next hstart => simp [hstart, eq_comm]
  · next hstart => simp [hstart]

theorem shortens_occurrence? (hpq : q.length < p.length) : (occurrence? p q).Shortens := by
  refine ⟨fun h => ?_, fun h => ?_⟩
  · obtain ⟨hstart, -, rfl⟩ := occurrence?_eq_some_iff.mp h
    have hle := hstart.length_le
    omega
  · obtain ⟨-, rfl, rfl⟩ := occurrence?_eq_some_iff.mp h
    omega

/-- An occurrence does not reach beyond a character that it does not hold. -/
theorem occurrence?_append_cons {c : Char} (hc : c ∉ p) (a s : List Char) :
    occurrence? p q (a ++ c :: s) = occurrence? p q a := by
  have hstart : startsWith p (a ++ c :: s) = startsWith p a := by
    rw [Bool.eq_iff_iff, startsWith_iff, startsWith_iff]
    exact prefix_append_cons_iff p a hc
  rw [occurrence?, occurrence?, hstart]

theorem notMem_replaceAll {c : Char} (hq : c ∉ q) {s : List Char} (hs : c ∉ s) :
    c ∉ replaceAll p q s := by
  rw [replaceAll, replaceFrom_eq]
  refine notMem_rewriteFrom (fun h => ?_) 0 s hs
  obtain ⟨-, rfl, -⟩ := occurrence?_eq_some_iff.mp h
  exact hq

/-- A character that is not in `p` divides the work. -/
theorem replaceAll_append_cons (hpq : q.length < p.length) {c : Char} (hc : c ∉ p)
    (a s : List Char) :
    replaceAll p q (a ++ c :: s) = replaceAll p q a ++ c :: replaceAll p q s := by
  simp only [replaceAll, replaceFrom_eq]
  exact rewriteFrom_append_cons (shortens_occurrence? hpq) (occurrence?_append_cons hc · s) 0 a
    (Nat.zero_le _)

theorem replaceAll_cons_of_notMem (hpq : q.length < p.length) {c : Char} (hc : c ∉ p)
    (s : List Char) : replaceAll p q (c :: s) = c :: replaceAll p q s :=
  replaceAll_append_cons hpq hc [] s

/-- The first occurrence is replaced first. -/
theorem replaceAll_of_cut? {s before rest : List Char} (hp : p ≠ [])
    (h : cut? p s = some (before, rest)) :
    replaceAll p q s = before ++ q ++ replaceAll p q rest := by
  fun_induction cut? p s generalizing before with
  | case1 =>
    obtain ⟨r, hr, -⟩ := Option.map_eq_some_iff.mp h
    exact absurd (List.append_eq_nil_iff.mp (after?_eq_some_iff.mp hr).symm).1 hp
  | case2 c cs r hr =>
    cases h
    have hstart : startsWith p (c :: cs) = true := by simp [startsWith, hr]
    have hdrop : cs.drop (p.length - 1) = rest := by
      obtain ⟨d, p, rfl⟩ := List.exists_cons_of_ne_nil hp
      obtain ⟨-, rfl⟩ : c = d ∧ cs = p ++ rest := by simpa using after?_eq_some_iff.mp hr
      simp
    simp only [replaceAll, replaceFrom, hstart, if_true, List.nil_append]
    rw [replaceFrom_eq, rewriteFrom_eq_drop, hdrop, ← replaceFrom_eq]
  | case3 c cs hn ih =>
    obtain ⟨⟨b, r⟩, hr, he⟩ := Option.map_eq_some_iff.mp h
    cases he
    have hstart : startsWith p (c :: cs) = false := by simp [startsWith, hn]
    have hrest : replaceAll p q (c :: cs) = c :: replaceAll p q cs := by
      simp [replaceAll, replaceFrom, hstart]
    rw [hrest, ih hr]
    simp

/-- A text without an occurrence stays as it is, and no other one does. -/
theorem replaceAll_eq_self_iff (hpq : q.length < p.length) (s : List Char) :
    replaceAll p q s = s ↔ ¬ p <:+: s := by
  rw [replaceAll, replaceFrom_eq, rewriteFrom_eq_self_iff (shortens_occurrence? hpq),
    List.infix_iff_prefix_suffix]
  simp only [occurrence?_eq_none_iff]
  exact ⟨fun h ⟨t, hp, ht⟩ => h t ht hp, fun h t ht hp => h ⟨t, hp, ht⟩⟩

end Occurrence

end Broadsheet

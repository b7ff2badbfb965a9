import Broadsheet.Diagram.Svg
import Broadsheet.Proofs.Text.Replacing

/-!
# Broadsheet.Proofs.Diagram.Selectors

Renaming the selectors of an id.  A selector is a number sign and the id, and it
ends where it stands: no character that a name could go on with comes after it.

* `renameAll` — what the renaming is for: every selector, from left to right, and
  nothing else;
* `chained` — whether a selector comes directly after another one;
* `renameFrom_eq_renameAll` — the renaming does what it is for in texts without
  such selectors;
* `chained_eq_false_of_renameFrom_eq` — and in no other one, if the id has no
  number sign.

The renaming takes the character after a selector along.  It is written back, but
the next selector is not looked for there; this is where the two part.

`Rewritten` is what can be said of a renamed text without saying where its selectors
end: renaming makes no part out of nothing.  A character that is in no selector cuts
the text in two (`exists_renameFrom_append_cons`).
-/

namespace Broadsheet

namespace Svg

/-! ## Templates -/

theorem fill_append_of_notMem (groups : List (List Char)) (b : List Char) : (a : List Char) →
    '$' ∉ a → fill groups (a ++ b) = a ++ fill groups b
  | [], _ => rfl
  | c :: a, h => by
      obtain ⟨hc, ha⟩ : '$' ≠ c ∧ '$' ∉ a := by simpa using h
      have ih := fill_append_of_notMem groups b a ha
      simp only [fill] at ih ⊢
      rw [List.cons_append, fillFrom.eq_def]
      simp [Ne.symm hc, ih]

/-- The first group after the whole is filled in as it is. -/
theorem fill_first (whole first : List Char) (groups : List (List Char)) (b : List Char) :
    fill (whole :: first :: groups) ("$\x7b1\x7d".toList ++ b) =
      first ++ fill (whole :: first :: groups) b := by
  simp [fill, fillFrom, group, after?]

/-! ## Selectors -/

/-- Whether a text begins with a selector of an id. -/
def selectorAt (id s : List Char) : Bool := (after? ('#' :: id) s).any selectorEnds

/-- Finds a selector of an id, for which one of another id is written. -/
def selector? (old new : List Char) : Finder := fun s =>
  if selectorAt old s then some ('#' :: new, old.length) else none

/-- Renames every selector of an id, from left to right. -/
def renameAll (old new s : List Char) : List Char := rewriteFrom (selector? old new) 0 s

/-- Whether a selector of an id comes directly after another one. -/
def chained (id : List Char) : List Char → Bool
  | [] => false
  | c :: cs => (after? ('#' :: id) (c :: cs)).any (selectorAt id) || chained id cs

/-- Whether a name can be made of the characters. -/
def isNameText (s : List Char) : Bool := s.all fun c => isWordChar c || c == '-'

section Selector

variable {id old new r s : List Char} {c : Char}

theorem selectorAt_iff : selectorAt id s = true ↔
    ∃ r, s = '#' :: (id ++ r) ∧ selectorEnds r = true := by
  simp [selectorAt, Option.any_eq_true, after?_eq_some_iff]

@[simp] theorem after?_selector : after? ('#' :: id) ('#' :: (id ++ r)) = some r :=
  after?_eq_some_iff.mpr rfl

@[simp] theorem selectorAt_selector : selectorAt id ('#' :: (id ++ r)) = selectorEnds r := by
  simp [selectorAt]

theorem selectorAt_of_ne (hc : c ≠ '#') : selectorAt id (c :: s) = false := by
  simp [selectorAt, after?, Ne.symm hc]

theorem selectorEnds_of_head?_eq {t : List Char} (h : s.head? = t.head?) :
    selectorEnds s = selectorEnds t := by
  rw [selectorEnds, selectorEnds, h]

/-- No name goes on with a number sign. -/
theorem selectorEnds_hash : selectorEnds ('#' :: s) = true := by
  have hhash : (isWordChar '#' || '#' == '-') = false := by decide
  rw [selectorEnds, List.head?_cons, Option.any_some, hhash, Bool.not_false]

/-- A character that is in no name is not in one. -/
theorem notMem_of_isNameText (hs : isNameText s = true) (hc : (isWordChar c || c == '-') = false) :
    c ∉ s := by
  intro hmem
  have hword := List.all_eq_true.mp hs c hmem
  rw [hc] at hword
  exact Bool.false_ne_true hword

/-- A text is nothing, or it begins with a selector, or with another character.
The parts of what follows a selector are all before it. -/
theorem selector_induction (id : List Char) {motive : List Char → Prop} (nil : motive [])
    (selector : ∀ r, selectorEnds r = true → (∀ t, t <:+ r → motive t) →
      motive ('#' :: (id ++ r)))
    (other : ∀ c s, selectorAt id (c :: s) = false → motive s → motive (c :: s)) :
    (s : List Char) → motive s
  | [] => nil
  | c :: s => by
      by_cases hstart : selectorAt id (c :: s) = true
      · obtain ⟨r, hr, hends⟩ := selectorAt_iff.mp hstart
        rw [hr]
        apply selector r hends
        intro t ht
        have hlen : t.length < (c :: s).length := by
          have hle := ht.length_le
          rw [hr, List.length_cons, List.length_append]
          omega
        exact selector_induction id nil selector other t
      · exact other c s (Bool.eq_false_iff.mpr hstart)
          (selector_induction id nil selector other s)
termination_by s => s.length
decreasing_by
  · exact hlen
  · exact Nat.lt_succ_self s.length

/-! ## One step of each renaming -/

theorem renameFrom_eq_drop : (k : Nat) → (s : List Char) →
    renameFrom old new k s = renameFrom old new 0 (s.drop k)
  | 0, s => rfl
  | k + 1, [] => rfl
  | k + 1, d :: s => by rw [renameFrom, List.drop_succ_cons, renameFrom_eq_drop k s]

/-- The character after a selector goes with it. -/
theorem renameFrom_selector (hnew : '$' ∉ new) (hr : selectorEnds r = true) :
    renameFrom old new 0 ('#' :: (old ++ r)) =
      '#' :: (new ++ (r.take 1 ++ renameFrom old new 0 (r.drop 1))) := by
  have hfill : fill ['#' :: old ++ r.take 1, r.take 1] ('#' :: new ++ "$\x7b1\x7d".toList) =
      '#' :: new ++ r.take 1 := by
    have hhash : '$' ∉ '#' :: new := by simpa using hnew
    have hfirst := fill_first ('#' :: old ++ r.take 1) (r.take 1) [] []
    rw [List.append_nil] at hfirst
    rw [fill_append_of_notMem _ _ _ hhash, hfirst]
    simp [fill, fillFrom]
  have hdrop : (old ++ r).drop (old.length + (r.take 1).length) = r.drop 1 := by
    rw [List.drop_append, List.drop_eq_nil_of_le (by omega), List.nil_append]
    cases r <;> simp
  rw [renameFrom, after?_selector]
  simp only [hr, if_true, hfill, renameFrom_eq_drop _ (old ++ r), hdrop]
  simp

theorem renameFrom_other (h : selectorAt old (c :: s) = false) :
    renameFrom old new 0 (c :: s) = c :: renameFrom old new 0 s := by
  rw [renameFrom]
  cases hafter : after? ('#' :: old) (c :: s) with
  | none => rfl
  | some r =>
      have hends : selectorEnds r = false := by simpa [selectorAt, hafter] using h
      simp [hends]

theorem renameAll_selector (hr : selectorEnds r = true) :
    renameAll old new ('#' :: (old ++ r)) = '#' :: (new ++ renameAll old new r) := by
  rw [renameAll, rewriteFrom, selector?, selectorAt_selector, if_pos hr]
  simp only [rewriteFrom_eq_drop old.length, List.drop_left]
  rfl

theorem renameAll_other (h : selectorAt old (c :: s) = false) :
    renameAll old new (c :: s) = c :: renameAll old new s := by
  rw [renameAll, rewriteFrom, selector?, h]
  rfl

theorem renameFrom_append_of_notMem (t : List Char) : (a : List Char) → '#' ∉ a →
    renameFrom old new 0 (a ++ t) = a ++ renameFrom old new 0 t
  | [], _ => rfl
  | c :: a, h => by
      obtain ⟨hc, ha⟩ : '#' ≠ c ∧ '#' ∉ a := by simpa using h
      rw [List.cons_append, renameFrom_other (selectorAt_of_ne (Ne.symm hc)),
        renameFrom_append_of_notMem t a ha, List.cons_append]

/-- Whatever is renamed begins with a number sign, and so does what is written for it. -/
theorem head?_renameFrom (old : List Char) (hnew : '$' ∉ new) (s : List Char) :
    (renameFrom old new 0 s).head? = s.head? := by
  induction s using selector_induction old with
  | nil => rfl
  | selector r hr _ => rw [renameFrom_selector hnew hr]; rfl
  | other c s h _ => rw [renameFrom_other h]; rfl

/-! ## Selectors one after another -/

theorem chained_cons (c : Char) (s : List Char) : chained id (c :: s) =
    ((after? ('#' :: id) (c :: s)).any (selectorAt id) || chained id s) := rfl

theorem chained_append_of_notMem {t : List Char} : (a : List Char) → '#' ∉ a →
    chained id (a ++ t) = chained id t
  | [], _ => rfl
  | c :: a, h => by
      obtain ⟨hc, ha⟩ : '#' ≠ c ∧ '#' ∉ a := by simpa using h
      rw [List.cons_append, chained_cons, chained_append_of_notMem a ha]
      simp [after?, hc]

/-- Where no selector begins, a chain is in the rest. -/
theorem chained_of_other (h : selectorAt id (c :: s) = false) :
    chained id (c :: s) = chained id s := by
  rw [chained_cons]
  cases hafter : after? ('#' :: id) (c :: s) with
  | none => rfl
  | some r =>
      have hnone : selectorAt id r = false := by
        rw [Bool.eq_false_iff]
        intro hr
        obtain ⟨q, rfl, -⟩ := selectorAt_iff.mp hr
        rw [selectorAt, hafter, Option.any_some, selectorEnds_hash] at h
        exact Bool.noConfusion h
      simp [hnone]

theorem chained_selector (hid : '#' ∉ id) (r : List Char) :
    chained id ('#' :: (id ++ r)) = (selectorAt id r || chained id r) := by
  rw [chained_cons, after?_selector, chained_append_of_notMem id hid, Option.any_some]

theorem chained_of_suffix {t : List Char} (h : t <:+ s) (ht : chained id t = true) :
    chained id s = true := by
  induction s with
  | nil => rwa [List.suffix_nil.mp h] at ht
  | cons c s ih =>
      obtain rfl | h := List.suffix_cons_iff.mp h
      · exact ht
      · rw [chained_cons, ih h, Bool.or_true]

/-- Without selectors that come directly after another one, every selector is
renamed. -/
theorem renameFrom_eq_renameAll (hnew : '$' ∉ new) (s : List Char) :
    chained old s = false → renameFrom old new 0 s = renameAll old new s := by
  induction s using selector_induction old with
  | nil => intro _; rfl
  | other c s h ih =>
      rw [chained_of_other h, renameFrom_other h, renameAll_other h]
      intro hchained
      rw [ih hchained]
  | selector r hr ih =>
      intro hchained
      rw [renameFrom_selector hnew hr, renameAll_selector hr]
      have hnext : selectorAt old r = false := by
        rw [Bool.eq_false_iff]
        intro hr'
        simp [chained_cons, hr'] at hchained
      cases r with
      | nil => rfl
      | cons c r =>
          have hrest : chained old r = false := by
            rw [Bool.eq_false_iff] at hchained ⊢
            intro hr'
            exact hchained (chained_of_suffix ⟨'#' :: (old ++ [c]), by simp⟩ hr')
          have ih := ih r (List.suffix_cons c r) hrest
          rw [renameAll_other hnext, ← ih]
          rfl

end Selector

/-! ## What is left of a chain -/

section Chain

variable {old new : List Char} (hold : '#' ∉ old) (hnew : isNameText new = true)

include hold hnew

/-- Renaming to a shorter id leaves at least as much as renaming every selector. -/
theorem length_renameAll_le (hlen : new.length ≤ old.length) (s : List Char) :
    (renameAll old new s).length ≤ (renameFrom old new 0 s).length := by
  have hdollar : '$' ∉ new := notMem_of_isNameText hnew (by decide)
  induction s using selector_induction old with
  | nil => exact Nat.le_refl _
  | other c s h ih =>
      rw [renameAll_other h, renameFrom_other h, List.length_cons, List.length_cons]
      omega
  | selector r hr ih =>
      rw [renameAll_selector hr, renameFrom_selector hdollar hr]
      simp only [List.length_cons, List.length_append]
      cases hnext : selectorAt old r with
      | true =>
          obtain ⟨q, rfl, hq⟩ := selectorAt_iff.mp hnext
          have ih := ih q ⟨'#' :: old, by simp⟩
          simp only [renameAll_selector hq, List.take_succ_cons, List.take_zero,
            List.drop_succ_cons, List.drop_zero, renameFrom_append_of_notMem _ old hold,
            List.length_cons, List.length_append, List.length_nil]
          omega
      | false =>
          cases r with
          | nil => simp [renameAll, rewriteFrom]
          | cons c r =>
              have ih := ih r (List.suffix_cons c r)
              simp only [renameAll_other hnext, List.take_succ_cons, List.take_zero,
                List.drop_succ_cons, List.drop_zero, List.length_cons, List.length_nil]
              omega

/-- The second selector of a chain is not renamed, and this shows. -/
theorem renameFrom_ne_renameAll_of_chain (hne : old ≠ new) {q : List Char}
    (hq : selectorEnds q = true) :
    renameFrom old new 0 ('#' :: (old ++ '#' :: (old ++ q))) ≠
      renameAll old new ('#' :: (old ++ '#' :: (old ++ q))) := by
  have hdollar : '$' ∉ new := notMem_of_isNameText hnew (by decide)
  rw [renameFrom_selector hdollar selectorEnds_hash, renameAll_selector selectorEnds_hash,
    renameAll_selector hq]
  simp only [List.take_succ_cons, List.take_zero, List.drop_succ_cons, List.drop_zero,
    renameFrom_append_of_notMem _ old hold, List.cons_append, List.nil_append]
  intro heq
  have htail : old ++ renameFrom old new 0 q = new ++ renameAll old new q := by simpa using heq
  obtain ⟨a, ha, hrest⟩ | ⟨a, ha, hrest⟩ := List.append_eq_append_iff.mp htail
  · -- the new id goes on where the old one ends, but no name goes on there
    cases a with
    | nil => exact hne (by simpa using ha.symm)
    | cons c a =>
        have hhead := head?_renameFrom old hdollar q
        rw [hrest] at hhead
        have hword : (isWordChar c || c == '-') = true :=
          List.all_eq_true.mp hnew c (by simp [ha])
        rw [← selectorEnds_of_head?_eq hhead] at hq
        simp [selectorEnds, hword] at hq
  · -- the new id is shorter, and so is what all selectors are renamed to
    have hle := length_renameAll_le hold hnew (by simp [ha]) q
    rw [hrest, List.length_append] at hle
    obtain rfl : a = [] := List.eq_nil_of_length_eq_zero (by omega)
    exact hne (by simpa using ha)

/-- Every selector is renamed only where none comes directly after another one. -/
theorem chained_eq_false_of_renameFrom_eq (hne : old ≠ new) (s : List Char) :
    renameFrom old new 0 s = renameAll old new s → chained old s = false := by
  have hdollar : '$' ∉ new := notMem_of_isNameText hnew (by decide)
  induction s using selector_induction old with
  | nil => intro _; rfl
  | other c s h ih =>
      rw [renameFrom_other h, renameAll_other h, chained_of_other h]
      intro heq
      exact ih (List.cons.inj heq).2
  | selector r hr ih =>
      intro heq
      have hnext : selectorAt old r = false := by
        rw [Bool.eq_false_iff]
        intro hr'
        obtain ⟨q, rfl, hq⟩ := selectorAt_iff.mp hr'
        exact renameFrom_ne_renameAll_of_chain hold hnew hne hq heq
      rw [chained_selector hold, hnext, Bool.false_or]
      cases r with
      | nil => rfl
      | cons c r =>
          rw [renameFrom_selector hdollar hr, renameAll_selector hr, renameAll_other hnext] at heq
          rw [chained_of_other hnext]
          exact ih r (List.suffix_cons c r) (by simpa using heq)

end Chain

/-- The second selector of a chain is left. -/
example : renameFrom "a".toList "b".toList 0 "#a#a #a".toList = "#b#a #b".toList := by decide +kernel

/-! ## What a renaming leaves alone -/

/-- What a text becomes when selectors in it are renamed.  Apart from number signs
and the new id its characters are in the text, and a part that begins with no
character of the new id, and has no number sign, is a part of the text. -/
structure Rewritten (new s t : List Char) : Prop where
  mem {c : Char} : c ∈ t → c ∈ s ∨ c = '#' ∨ c ∈ new
  beginning {p : List Char} : '#' ∉ p → p <+: t → p <+: s
  part {c : Char} {p : List Char} : '#' ∉ c :: p → c ∉ new → c :: p <:+: t → c :: p <:+: s

namespace Rewritten

variable {old new s t : List Char}

theorem nil : Rewritten new [] [] := ⟨fun h => .inl h, fun _ h => h, fun _ _ h => h⟩

theorem cons (c : Char) (h : Rewritten new s t) : Rewritten new (c :: s) (c :: t) := by
  have hbeginning {p : List Char} (hp : '#' ∉ p) (hstart : p <+: c :: t) : p <+: c :: s := by
    obtain rfl | ⟨q, rfl, hq⟩ := List.prefix_cons_iff.mp hstart
    · exact List.nil_prefix
    · exact (List.cons_prefix_cons).mpr
        ⟨rfl, h.beginning (fun hmem => hp (List.mem_cons_of_mem c hmem)) hq⟩
  constructor
  · intro d hd
    obtain rfl | hd := List.mem_cons.mp hd
    · exact .inl List.mem_cons_self
    · exact (h.mem hd).imp_left (List.mem_cons_of_mem c)
  · exact hbeginning
  · intro d p hp hd hpart
    obtain hstart | hpart := List.infix_cons_iff.mp hpart
    · exact (hbeginning hp hstart).isInfix
    · exact (h.part hp hd hpart).trans (List.suffix_cons c s).isInfix

theorem selector (h : Rewritten new s t) :
    Rewritten new ('#' :: (old ++ s)) ('#' :: (new ++ t)) := by
  constructor
  · intro c hc
    obtain rfl | hc := List.mem_cons.mp hc
    · exact .inr (.inl rfl)
    · obtain hc | hc := List.mem_append.mp hc
      · exact .inr (.inr hc)
      · exact (h.mem hc).imp_left fun hs => by simp [hs]
  · intro p hp hstart
    obtain rfl | ⟨q, rfl, -⟩ := List.prefix_cons_iff.mp hstart
    · exact List.nil_prefix
    · simp at hp
  · intro c p hp hc hpart
    have hnew : c ∉ '#' :: new := by
      intro hmem
      obtain rfl | hmem := List.mem_cons.mp hmem
      · simp at hp
      · exact hc hmem
    rw [← List.cons_append] at hpart ⊢
    have hrest := (infix_append_iff_of_notMem hnew).mp hpart
    exact (h.part hp hc hrest).trans (List.suffix_append _ s).isInfix

end Rewritten

/-- What stands before a character that the selectors do not hold, and what stands
after it, are rewritten apart.  The former is not always what becomes of it alone:
whether a selector ends there depends on the character. -/
theorem exists_renameFrom_append_cons (old : List Char) {new v : List Char} {c : Char}
    (hnew : '$' ∉ new) (hc : c ∉ '#' :: old) (s : List Char) : (u : List Char) → s = u ++ c :: v →
      ∃ u', Rewritten new u u' ∧ renameFrom old new 0 s = u' ++ c :: renameFrom old new 0 v := by
  induction s using selector_induction old with
  | nil => intro u hu; simp at hu
  | other d s h ih =>
      intro u hu
      rw [renameFrom_other h]
      cases u with
      | nil =>
          obtain ⟨rfl, rfl⟩ := List.cons.inj hu
          exact ⟨[], .nil, rfl⟩
      | cons e u =>
          obtain ⟨rfl, rfl⟩ := List.cons.inj hu
          obtain ⟨u', hu', heq⟩ := ih u rfl
          exact ⟨d :: u', hu'.cons d, by rw [heq, List.cons_append]⟩
  | selector r hr ih =>
      intro u hu
      have hstart : '#' :: old <+: u := by
        rw [← prefix_append_cons_iff _ u hc, ← hu]
        exact ⟨r, rfl⟩
      obtain ⟨w, rfl⟩ := hstart
      obtain rfl : r = w ++ c :: v := by simpa using hu
      rw [renameFrom_selector hnew hr]
      cases w with
      | nil => exact ⟨'#' :: (new ++ []), .selector (.nil), by simp⟩
      | cons d w =>
          obtain ⟨w', hw', heq⟩ := ih (w ++ c :: v) (List.suffix_cons d _) w rfl
          refine ⟨'#' :: (new ++ d :: w'), .selector (hw'.cons d), ?_⟩
          simp [heq]

end Svg

end Broadsheet

import Broadsheet.Config.Load
import Broadsheet.Proofs.Text.Replacing

/-!
# Broadsheet.Proofs.Config.References

Braced references in addresses.  A text is divided into `Part`s: references
`${NAME}` and `${NAME:-text}`, and characters that stand for themselves.
`expandBraced` replaces each reference by what it stands for and keeps every
other character; of several references without a value it reports the first.

* `flatMap_written_parts` — nothing is lost in dividing a text;
* `expandParts_of_not_brace` — where no reference begins, all is kept;
* `expandFrom_eq_expandParts` — otherwise `Expand.expandFrom` does the same as
  long as no dollar sign that stands for itself comes before a name or another
  dollar sign;
* `expandFrom_ne_filled` — and where one does, there are variables for which it
  does something else: the dollar sign is taken for a reference without braces,
  or for one half of `$$`.

`expandField_eq_expandBraced_iff` puts these together.
-/

namespace Broadsheet

namespace Expand

/-! ## Parts of a text -/

/-- A part of a text. -/
inductive Part
  /-- A character that stands for itself. -/
  | char (c : Char)
  /-- A braced reference to a variable, with the text for an unset one, if it has such a text. -/
  | reference (name : List Char) (text : Option (List Char))
  deriving DecidableEq

namespace Part

/-- The part in the text. -/
def written : Part → List Char
  | char c => [c]
  | reference name none => ['$', '{'] ++ name ++ ['}']
  | reference name (some text) => ['$', '{'] ++ name ++ [':', '-'] ++ text ++ ['}']

/-- The variable that the part cannot do without and that is not set. -/
def missing? (env : String → Option String) : Part → Option String
  | char _ | reference _ (some _) => none
  | reference name none =>
    if (env (String.ofList name)).isNone then some (String.ofList name) else none

/-- What the part stands for, if it misses no variable. -/
def meaning (env : String → Option String) : Part → List Char
  | char c => [c]
  | reference name text => ((env (String.ofList name)).map String.toList).getD (text.getD [])

/-- The reference with the given text between its braces. -/
def ofInside (inside : List Char) : Part :=
  reference (splitReference inside).1 (splitReference inside).2

/-- Whether a dollar sign that stands before the part could be more than itself: a second dollar
sign or a name comes after it. -/
def leads (p : Part) : Bool := p.written.head?.any fun c => c == '$' || isNameChar c

theorem exists_written (p : Part) : ∃ c cs, p.written = c :: cs := by
  rcases p with c | ⟨name, _ | text⟩ <;> exact ⟨_, _, rfl⟩

end Part

/-- The text between the braces of the reference that a text begins with. -/
def inside? : List Char → Option (List Char)
  | '$' :: '{' :: t =>
    let inside := t.takeWhile (· != '}')
    if inside.length < t.length then some inside else none
  | _ => none

/-- The parts of a text, with `skip` characters of the last reference still to be passed over. -/
def partsFrom : (skip : Nat) → List Char → List Part
  | _, [] => []
  | k + 1, _ :: cs => partsFrom k cs
  | 0, c :: cs =>
    match inside? (c :: cs) with
    | some inside => .ofInside inside :: partsFrom (inside.length + 2) cs
    | none => .char c :: partsFrom 0 cs

/-- The parts of a text. -/
def parts (s : List Char) : List Part := partsFrom 0 s

/-- What parts stand for, or the first variable that one of them misses. -/
def expandParts (env : String → Option String) (ps : List Part) : Except Unset (List Char) :=
  match ps.findSome? (Part.missing? env) with
  | some name => .error ⟨name⟩
  | none => .ok (ps.flatMap (Part.meaning env))

/-! ## Dividing a text -/

/-- A reference goes on to the first closing brace. -/
theorem eq_of_inside? {s inside : List Char} (h : inside? s = some inside) :
    ∃ rest, s = '$' :: '{' :: (inside ++ '}' :: rest) := by
  unfold inside? at h
  split at h
  · next t =>
      obtain ⟨hlt, rfl⟩ : (t.takeWhile (· != '}')).length < t.length ∧
          t.takeWhile (· != '}') = inside := by simpa using h
      have hall := List.takeWhile_append_dropWhile (p := (· != '}')) (l := t)
      cases hdrop : t.dropWhile (· != '}') with
      | nil =>
          rw [hdrop, List.append_nil] at hall
          rw [hall] at hlt
          exact absurd hlt (Nat.lt_irrefl _)
      | cons c rest =>
          obtain rfl : c = '}' := by
            have hhead := List.head?_dropWhile_not (· != '}') t
            simpa [hdrop] using hhead
          rw [hdrop] at hall
          exact ⟨rest, by simpa using hall.symm⟩
  · simp at h

/-- A text is divided at its beginning: it begins with a reference, or its first character stands
for itself. -/
@[elab_as_elim]
theorem divided_induction {P : List Char → Prop} (nil : P [])
    (reference : ∀ inside rest, inside? ('$' :: '{' :: (inside ++ '}' :: rest)) = some inside →
      P rest → P ('$' :: '{' :: (inside ++ '}' :: rest)))
    (char : ∀ c cs, inside? (c :: cs) = none → P cs → P (c :: cs)) (s : List Char) : P s := by
  induction hn : s.length using Nat.strongRecOn generalizing s with
  | ind n ih =>
    subst hn
    cases s with
    | nil => exact nil
    | cons c cs =>
        cases h : inside? (c :: cs) with
        | none => exact char c cs h (ih cs.length (by simp) cs rfl)
        | some inside =>
            obtain ⟨rest, hs⟩ := eq_of_inside? h
            rw [hs] at h ih ⊢
            exact reference inside rest h (ih rest.length (by simp; omega) rest rfl)

theorem partsFrom_eq : (k : Nat) → (s : List Char) → partsFrom k s = parts (s.drop k)
  | 0, _ => rfl
  | _ + 1, [] => rfl
  | k + 1, _ :: cs => partsFrom_eq k cs

theorem parts_reference {inside rest : List Char}
    (h : inside? ('$' :: '{' :: (inside ++ '}' :: rest)) = some inside) :
    parts ('$' :: '{' :: (inside ++ '}' :: rest)) = .ofInside inside :: parts rest := by
  rw [parts, partsFrom, h]
  simp [partsFrom_eq]

theorem parts_char {c : Char} {cs : List Char} (h : inside? (c :: cs) = none) :
    parts (c :: cs) = .char c :: parts cs := by
  rw [parts, partsFrom, h, parts]

/-- The text between the braces is its name and the text for an unset variable. -/
theorem written_ofInside (inside : List Char) :
    (Part.ofInside inside).written = ['$', '{'] ++ inside ++ ['}'] := by
  unfold Part.ofInside splitReference
  split
  · rfl
  · next name text h => simp [Part.written, eq_of_cut? h]
  · rfl

/-- **Nothing is lost**: the parts make up the text. -/
theorem flatMap_written_parts (s : List Char) : (parts s).flatMap Part.written = s := by
  induction s using divided_induction with
  | nil => rfl
  | reference inside rest h ih => simp [parts_reference h, written_ofInside, ih]
  | char c cs h ih => simp [parts_char h, Part.written, ih]

theorem inside?_dollar {s : List Char} (h : ¬ ['$', '{'] <+: s) : inside? s = none := by
  unfold inside?
  split
  · simp at h
  · rfl

/-- Without the beginning of a reference all characters stand for themselves. -/
theorem parts_of_not_brace (s : List Char) (h : ¬ ['$', '{'] <:+: s) : parts s = s.map .char := by
  induction s with
  | nil => rfl
  | cons c cs ih =>
      rw [List.infix_cons_iff, not_or] at h
      rw [parts_char (inside?_dollar h.1), ih h.2, List.map_cons]

/-- What comes next in a text is what its first part begins with. -/
theorem any_leads_parts (s : List Char) :
    (parts s).head?.any Part.leads = s.head?.any fun c => c == '$' || isNameChar c := by
  have hs := flatMap_written_parts s
  cases hparts : parts s with
  | nil =>
      rw [hparts] at hs
      rw [← hs]
      rfl
  | cons p ps =>
      rw [hparts, List.flatMap_cons] at hs
      obtain ⟨c, cs, hp⟩ := p.exists_written
      rw [← hs, List.head?_cons, Option.any_some, Part.leads, hp]
      rfl

/-! ## Expanding -/

theorem expandParts_cons (env : String → Option String) (p : Part) (ps : List Part) :
    expandParts env (p :: ps) = (do
      let meaning ← expandParts env [p]
      return meaning ++ (← expandParts env ps)) := by
  unfold expandParts
  cases hp : p.missing? env with
  | some name => simp [hp, bind, Except.bind]
  | none =>
      cases hps : ps.findSome? (Part.missing? env) with
      | some name => simp [hp, hps, bind, Except.bind]
      | none => simp [hp, hps, bind, Except.bind, pure, Except.pure]

theorem expandParts_char (env : String → Option String) (c : Char) :
    expandParts env [.char c] = .ok [c] := rfl

/-- A reference stands for what is looked up. -/
theorem expandParts_ofInside (env : String → Option String) (inside : List Char) :
    expandParts env [.ofInside inside] = lookUp env inside := by
  unfold Part.ofInside lookUp expandParts
  cases htext : (splitReference inside).2 <;>
    cases hname : env (String.ofList (splitReference inside).1) <;>
      simp [Part.missing?, Part.meaning, htext, hname]

/-- Where no reference begins, all is kept. -/
theorem expandParts_of_not_brace (env : String → Option String) {s : List Char}
    (h : ¬ ['$', '{'] <:+: s) : expandParts env (parts s) = .ok s := by
  rw [parts_of_not_brace s h]
  unfold expandParts
  have hnone : (s.map Part.char).findSome? (Part.missing? env) = none := by simp [Part.missing?]
  rw [hnone]
  simp [List.flatMap_map, Part.meaning]

theorem expandFrom_eq (env : String → Option String) : (k : Nat) → (s : List Char) →
    expandFrom env k s = expandFrom env 0 (s.drop k)
  | 0, _ => rfl
  | _ + 1, [] => rfl
  | k + 1, _ :: cs => expandFrom_eq env k cs

section Equations

variable (env : String → Option String)

/-- A reference is replaced by what is looked up. -/
theorem expandFrom_reference {inside rest : List Char}
    (h : inside? ('$' :: '{' :: (inside ++ '}' :: rest)) = some inside) :
    expandFrom env 0 ('$' :: '{' :: (inside ++ '}' :: rest)) = (do
      let value ← lookUp env inside
      return value ++ (← expandFrom env 0 rest)) := by
  obtain ⟨hlt, hinside⟩ : _ ∧ (inside ++ '}' :: rest).takeWhile (· != '}') = inside := by
    simpa [inside?] using h
  rw [expandFrom, if_pos rfl]
  simp [hinside, expandFrom_eq env (inside.length + 2)]

/-- A character that is no dollar sign stands for itself. -/
theorem expandFrom_char {c : Char} (hc : c ≠ '$') (cs : List Char) :
    expandFrom env 0 (c :: cs) = (do return c :: (← expandFrom env 0 cs)) := by
  rw [expandFrom.eq_def]
  exact if_neg hc

/-- So does a dollar sign that is not before a name or another one, and does not begin a
reference. -/
theorem expandFrom_dollar {cs : List Char} (h : inside? ('$' :: cs) = none)
    (hleads : (cs.head?.any fun c => c == '$' || isNameChar c) = false) :
    expandFrom env 0 ('$' :: cs) = (do return '$' :: (← expandFrom env 0 cs)) := by
  rw [expandFrom.eq_def]
  dsimp only
  rw [if_pos rfl]
  split
  · next t =>
      have hclosed : ¬ (t.takeWhile (· != '}')).length < t.length := by simpa [inside?] using h
      rw [if_neg hclosed, expandFrom_eq env 1, expandFrom_char env (by decide)]
      simp
  · simp at hleads
  · cases cs with
    | nil => rfl
    | cons c cs =>
        obtain ⟨-, hc⟩ : c ≠ '$' ∧ isNameChar c = false := by simpa using hleads
        simp [hc]

/-- Two dollar signs are one. -/
theorem expandFrom_dollars (cs : List Char) :
    expandFrom env 0 ('$' :: '$' :: cs) = (do return '$' :: (← expandFrom env 0 cs)) := by
  rw [expandFrom.eq_def]
  rfl

/-- A dollar sign before a name is a reference without braces. -/
theorem expandFrom_name {c : Char} (hc : isNameChar c) (cs : List Char) {value : String}
    (hvalue : env (String.ofList ((c :: cs).takeWhile isNameChar)) = some value) :
    expandFrom env 0 ('$' :: c :: cs) = (do
      return value.toList ++
        (← expandFrom env ((c :: cs).takeWhile isNameChar).length (c :: cs))) := by
  rw [expandFrom.eq_def]
  dsimp only
  rw [if_pos rfl]
  split
  · next h =>
      obtain ⟨rfl, -⟩ := List.cons.inj h
      exact absurd hc (by decide)
  · next h =>
      obtain ⟨rfl, -⟩ := List.cons.inj h
      exact absurd hc (by decide)
  · rw [hvalue, if_neg (by simp [hc])]

end Equations

/-! ## Agreement -/

/-- No dollar sign that stands for itself comes before a part that leads. -/
def DollarsApart (ps : List Part) : Prop := ∀ p, [.char '$', p] <:+: ps → p.leads = false

theorem dollarsApart_cons_iff (q : Part) (ps : List Part) :
    DollarsApart (q :: ps) ↔
      (q = .char '$' → ps.head?.any Part.leads = false) ∧ DollarsApart ps := by
  have hprefix (p : Part) : [.char '$', p] <+: q :: ps ↔ q = .char '$' ∧ ps.head? = some p := by
    cases ps <;> simp [List.cons_prefix_cons, eq_comm]
  simp only [DollarsApart, List.infix_cons_iff, hprefix, or_imp, forall_and]
  cases ps <;> simp

theorem expandFrom_eq_expandParts (env : String → Option String) (s : List Char) :
    DollarsApart (parts s) → expandFrom env 0 s = expandParts env (parts s) := by
  induction s using divided_induction with
  | nil => exact fun _ => rfl
  | reference inside rest h ih =>
      intro hapart
      rw [parts_reference h, dollarsApart_cons_iff] at hapart
      rw [parts_reference h, expandFrom_reference env h, expandParts_cons, expandParts_ofInside,
        ih hapart.2]
  | char c cs h ih =>
      intro hapart
      rw [parts_char h, dollarsApart_cons_iff] at hapart
      rw [parts_char h, expandParts_cons, expandParts_char, ← ih hapart.2]
      by_cases hc : c = '$'
      · subst hc
        exact expandFrom_dollar env h (by rw [← any_leads_parts, hapart.1 rfl])
      · exact expandFrom_char env hc cs

/-! ## Disagreement -/

/-- An environment in which every variable is set, and to a value that cannot be mistaken for what
is written in a reference. -/
def allSet : String → Option String := fun _ => some "x"

/-- A text with its braced references replaced where all variables are set. -/
def filled (s : List Char) : List Char := (parts s).flatMap (Part.meaning allSet)

theorem expandParts_allSet (s : List Char) : expandParts allSet (parts s) = .ok (filled s) := by
  have hmissing (p : Part) : p.missing? allSet = none := by
    unfold Part.missing?
    split <;> simp [allSet]
  have hnone : (parts s).findSome? (Part.missing? allSet) = none := by simp [hmissing]
  rw [expandParts, hnone]
  rfl

theorem filled_reference {inside rest : List Char}
    (h : inside? ('$' :: '{' :: (inside ++ '}' :: rest)) = some inside) :
    filled ('$' :: '{' :: (inside ++ '}' :: rest)) = 'x' :: filled rest := by
  rw [filled, parts_reference h, List.flatMap_cons]
  rfl

theorem filled_char {c : Char} {cs : List Char} (h : inside? (c :: cs) = none) :
    filled (c :: cs) = c :: filled cs := by
  rw [filled, parts_char h, List.flatMap_cons]
  rfl

theorem lookUp_allSet (inside : List Char) : lookUp allSet inside = .ok ['x'] := rfl

/-- What is expanded begins with what its first step writes. -/
theorem exists_of_bind_eq_ok {x : Except Unset (List Char)} {p w : List Char}
    (h : (do return p ++ (← x)) = Except.ok w) : ∃ v, x = .ok v ∧ w = p ++ v := by
  cases x with
  | error e => exact nomatch h
  | ok v => exact ⟨v, rfl, (Except.ok.inj h).symm⟩

/-- A dollar sign is replaced with a reference that it begins, or stands for itself and for one
right after it, or for itself alone. -/
theorem expandFrom_allSet_dollar {cs w : List Char}
    (h : expandFrom allSet 0 ('$' :: cs) = .ok w) :
    (∃ v, w = 'x' :: v) ∨
      (∃ ds v, cs = '$' :: ds ∧ expandFrom allSet 0 ds = .ok v ∧ w = '$' :: v) ∨
      ((cs.head?.any fun c => c == '$' || isNameChar c) = false ∧
        ∃ v, expandFrom allSet 0 cs = .ok v ∧ w = '$' :: v) := by
  cases hinside : inside? ('$' :: cs) with
  | some inside =>
      obtain ⟨rest, hcs⟩ := eq_of_inside? hinside
      obtain rfl : cs = '{' :: (inside ++ '}' :: rest) := by simpa using hcs
      rw [expandFrom_reference allSet hinside, lookUp_allSet] at h
      obtain ⟨v, -, rfl⟩ := exists_of_bind_eq_ok h
      exact .inl ⟨v, rfl⟩
  | none =>
      cases hleads : cs.head?.any fun c => c == '$' || isNameChar c with
      | false =>
          rw [expandFrom_dollar allSet hinside hleads] at h
          obtain ⟨v, hv, rfl⟩ := exists_of_bind_eq_ok (p := ['$']) h
          exact .inr (.inr ⟨rfl, v, hv, rfl⟩)
      | true =>
          obtain ⟨c, ds, rfl⟩ : ∃ c ds, cs = c :: ds := by
            cases cs with
            | nil => simp at hleads
            | cons c ds => exact ⟨c, ds, rfl⟩
          obtain rfl | hname : c = '$' ∨ isNameChar c = true := by simpa using hleads
          · rw [expandFrom_dollars] at h
            obtain ⟨v, hv, rfl⟩ := exists_of_bind_eq_ok (p := ['$']) h
            exact .inr (.inl ⟨ds, v, rfl, hv, rfl⟩)
          · rw [expandFrom_name allSet hname ds rfl] at h
            obtain ⟨v, -, rfl⟩ := exists_of_bind_eq_ok h
            exact .inl ⟨v, rfl⟩

theorem filled_dollar_dollar (cs : List Char) :
    filled ('$' :: '$' :: cs) = '$' :: filled ('$' :: cs) := by
  apply filled_char
  rfl

/-- With a dollar sign more at its beginning, a text has more of them when it is filled than the
text without it has when it is expanded. -/
theorem expandFrom_ne_dollars (s : List Char) (k : Nat) :
    expandFrom allSet 0 s ≠ .ok (List.replicate k '$' ++ filled ('$' :: s)) := by
  intro h
  induction hn : s.length using Nat.strongRecOn generalizing s k with
  | ind n ih =>
    subst hn
    cases s with
    | nil => cases k <;> exact nomatch h
    | cons c cs =>
        by_cases hc : c = '$'
        · subst hc
          rw [filled_dollar_dollar, List.append_cons, ← List.replicate_succ',
            List.replicate_succ, List.cons_append] at h
          obtain ⟨v, hv⟩ | ⟨ds, v, rfl, hds, hv⟩ | ⟨-, v, hcs, hv⟩ := expandFrom_allSet_dollar h
          · exact absurd hv (by simp)
          · obtain rfl := List.tail_eq_of_cons_eq hv
            refine ih ds.length (by simp only [List.length_cons]; omega) ds (k + 1) ?_ rfl
            rw [hds, filled_dollar_dollar, List.replicate_succ', List.append_assoc]
            rfl
          · obtain rfl := List.tail_eq_of_cons_eq hv
            exact ih cs.length (by simp) cs k hcs rfl
        · rw [expandFrom_char allSet hc] at h
          obtain ⟨v, -, hv⟩ := exists_of_bind_eq_ok (p := [c]) h
          cases k with
          | succ k => exact hc (List.head_eq_of_cons_eq hv).symm
          | zero =>
              cases hinside : inside? ('$' :: c :: cs) with
              | none =>
                  rw [filled_char hinside] at hv
                  exact hc (List.head_eq_of_cons_eq hv).symm
              | some inside =>
                  obtain ⟨rest, hcs⟩ := eq_of_inside? hinside
                  obtain ⟨rfl, rfl⟩ : c = '{' ∧ cs = inside ++ '}' :: rest := by simpa using hcs
                  rw [filled_reference hinside] at hv
                  exact absurd (List.head_eq_of_cons_eq hv) (by decide)

/-- Where a dollar sign that stands for itself comes before a name or another one, it is not
kept. -/
theorem expandFrom_ne_filled (s : List Char) (hs : ¬ DollarsApart (parts s)) :
    expandFrom allSet 0 s ≠ .ok (filled s) := by
  intro h
  induction s using divided_induction with
  | nil => exact hs fun p hp => by simp [parts, partsFrom] at hp
  | reference inside rest hinside ih =>
      rw [parts_reference hinside, dollarsApart_cons_iff] at hs
      rw [expandFrom_reference allSet hinside, lookUp_allSet, filled_reference hinside] at h
      obtain ⟨v, hv, heq⟩ := exists_of_bind_eq_ok h
      obtain rfl : filled rest = v := by simpa using heq
      exact ih (fun hrest => hs ⟨fun hchar => (nomatch hchar), hrest⟩) hv
  | char c cs hinside ih =>
      rw [parts_char hinside, dollarsApart_cons_iff] at hs
      rw [filled_char hinside] at h
      by_cases hc : c = '$'
      · subst hc
        obtain ⟨v, hv⟩ | ⟨ds, v, rfl, hds, hv⟩ | ⟨hleads, v, hcs, hv⟩ := expandFrom_allSet_dollar h
        · exact absurd hv (by simp)
        · obtain rfl := List.tail_eq_of_cons_eq hv
          exact expandFrom_ne_dollars ds 0 hds
        · obtain rfl := List.tail_eq_of_cons_eq hv
          exact ih (fun hrest => hs ⟨fun _ => by rw [any_leads_parts, hleads], hrest⟩) hcs
      · rw [expandFrom_char allSet hc] at h
        obtain ⟨v, hv, heq⟩ := exists_of_bind_eq_ok (p := [c]) h
        obtain rfl : filled cs = v := by simpa using heq
        exact ih (fun hrest => hs ⟨fun hchar => absurd (Part.char.inj hchar) hc, hrest⟩) hv

end Expand

/-! ## Fields -/

namespace Config

/-- A field with its braced references replaced and all else kept, or the error that names the
first variable that is missed. -/
def expandBraced (env : String → Option String) (field value : String) :
    Except ConfigError String :=
  match Expand.expandParts env (Expand.parts value.toList) with
  | .ok s => .ok (String.ofList s)
  | .error e => .error (.unsetVariable field e.name)

/-- A value in which a reference may begin is gone through. -/
theorem expandField_of_brace {value : String} (h : ['$', '{'] <:+: value.toList)
    (env : String → Option String) (field : String) :
    expandField env field value =
      match Expand.expandFrom env 0 value.toList with
      | .ok s => .ok (String.ofList s)
      | .error e => .error (.unsetVariable field e.name) := by
  have hcontains : containsText "$\x7b" value = true := contains_iff.mpr h
  rw [expandField, Expand.expand, if_pos hcontains]
  cases Expand.expandFrom env 0 value.toList <;> rfl

/-- Any other value is kept. -/
theorem expandField_of_not_brace {value : String} (h : ¬ ['$', '{'] <:+: value.toList)
    (env : String → Option String) (field : String) :
    expandField env field value = .ok value := by
  have hcontains : ¬ containsText "$\x7b" value = true := fun hc => h (contains_iff.mp hc)
  rw [expandField, Expand.expand, if_neg hcontains]

/-- **When only braced references are expanded**: whatever the variables are, a field is given its
value with each braced reference replaced and every other character kept, or the error that names
the first variable without a value, exactly if the value has no `${`, or no dollar sign outside its
references that is followed by a name or by another dollar sign. -/
theorem expandField_eq_expandBraced_iff (field value : String) :
    (∀ env, expandField env field value = expandBraced env field value) ↔
      (['$', '{'] <:+: value.toList → Expand.DollarsApart (Expand.parts value.toList)) := by
  by_cases hbrace : ['$', '{'] <:+: value.toList
  · refine ⟨fun h _ => ?_, fun h env => ?_⟩
    · refine Classical.byContradiction fun hapart => ?_
      have hset := h Expand.allSet
      rw [expandField_of_brace hbrace, expandBraced, Expand.expandParts_allSet] at hset
      refine Expand.expandFrom_ne_filled _ hapart ?_
      cases hexpand : Expand.expandFrom Expand.allSet 0 value.toList with
      | error e =>
          rw [hexpand] at hset
          exact nomatch hset
      | ok s =>
          rw [hexpand] at hset
          exact congrArg _ (String.ofList_injective (Except.ok.inj hset))
    · rw [expandField_of_brace hbrace, expandBraced,
        Expand.expandFrom_eq_expandParts env _ (h hbrace)]
  · refine ⟨fun _ h => absurd h hbrace, fun _ env => ?_⟩
    rw [expandField_of_not_brace hbrace, expandBraced, Expand.expandParts_of_not_brace env hbrace]
    simp

/-- A name without braces is kept where there is no braced one, and else a reference too. -/
example : (Expand.expand (fun _ => some "b") "$A").toOption = some "$A" ∧
    (Expand.expand (fun _ => some "b") "$\x7bA\x7d$A").toOption = some "bb" := by
  decide +kernel

end Config

end Broadsheet

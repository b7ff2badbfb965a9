/-!
# Broadsheet.Text.Search

Plain searching in texts: the rest after a given beginning, the first place
where a text occurs, splitting at a character, and replacing every occurrence
from left to right.  All of it is by recursion on the text, so each function
evaluates in the kernel.
-/

namespace Broadsheet

/-! ## Beginnings -/

/-- What follows `p` in a text that begins with `p`. -/
def after? : (p : List Char) → List Char → Option (List Char)
  | [], s => some s
  | _ :: _, [] => none
  | p :: ps, c :: cs => if p = c then after? ps cs else none

theorem after?_eq_some_iff {p s r : List Char} : after? p s = some r ↔ s = p ++ r := by
  fun_induction after? p s with
  | case1 s => simp
  | case2 => simp
  | case3 ps c cs ih => simp [ih]
  | case4 p ps c cs h => simp [Ne.symm h]

/-! ## Occurrences -/

/-- Cuts a text at the first occurrence of `p`: what stands before it and what follows it. -/
def cut? (p : List Char) : List Char → Option (List Char × List Char)
  | [] => (after? p []).map fun r => ([], r)
  | c :: cs =>
    match after? p (c :: cs) with
    | some r => some ([], r)
    | none => (cut? p cs).map fun (before, r) => (c :: before, r)

theorem eq_of_cut? {p s before rest : List Char} (h : cut? p s = some (before, rest)) :
    s = before ++ p ++ rest := by
  fun_induction cut? p s generalizing before with
  | case1 =>
    obtain ⟨r, hr, he⟩ := Option.map_eq_some_iff.1 h
    cases he
    simpa using after?_eq_some_iff.1 hr
  | case2 c cs r hr =>
    cases h
    simpa using after?_eq_some_iff.1 hr
  | case3 c cs hn ih =>
    obtain ⟨⟨b, r⟩, hr, he⟩ := Option.map_eq_some_iff.1 h
    cases he
    simp [ih hr]

/-- Whether `p` occurs in a text. -/
def contains (p s : List Char) : Bool := (cut? p s).isSome

/-- Whether a text begins with `p`. -/
def startsWith (p s : List Char) : Bool := (after? p s).isSome

/-! ## Splitting -/

/-- The pieces between the characters that `p` picks; there is always one more than such
characters. -/
def splitAt (p : Char → Bool) : List Char → List (List Char)
  | [] => [[]]
  | c :: cs =>
    if p c then [] :: splitAt p cs
    else match splitAt p cs with
      | [] => [[c]]
      | piece :: pieces => (c :: piece) :: pieces

/-- Cuts a text at its first character that `p` picks. -/
def splitOnce (p : Char → Bool) : List Char → Option (List Char × List Char)
  | [] => none
  | c :: cs =>
    if p c then some ([], cs)
    else (splitOnce p cs).map fun (before, r) => (c :: before, r)

/-! ## Replacing -/

/-- Replaces occurrences of `p` by `q`, with `skip` characters of the last occurrence still to
be passed over. -/
def replaceFrom (p q : List Char) : (skip : Nat) → List Char → List Char
  | _, [] => []
  | k + 1, _ :: cs => replaceFrom p q k cs
  | 0, c :: cs =>
    if startsWith p (c :: cs) then q ++ replaceFrom p q (p.length - 1) cs
    else c :: replaceFrom p q 0 cs

/-- Replaces every occurrence of the non-empty text `p` by `q`, from left to right and without
looking at what it wrote. -/
def replaceAll (p q s : List Char) : List Char := replaceFrom p q 0 s

/-- Replaces every occurrence of the text `p` by `q`. -/
def replaceText (p q s : String) : String :=
  String.ofList (replaceAll p.toList q.toList s.toList)

/-- Whether the text `p` occurs in `s`. -/
def containsText (p s : String) : Bool := contains p.toList s.toList

/-- Whether the text `s` begins with `p`. -/
def startsWithText (p s : String) : Bool := startsWith p.toList s.toList

/-! ## Lines -/

/-- Drops one line feed from the end of a text. -/
def dropLineFeed (s : List Char) : List Char :=
  if s.getLast? = some '\n' then s.dropLast else s

end Broadsheet

import Broadsheet.Text.Blank

/-!
# Broadsheet.Proofs.Text.Trimming

What trimming takes away.  A text is the white space that it begins with, the
trimmed text, and the white space that it ends with (`eq_append_trim`); the
trimmed text has no white space at its ends, so trimming it again changes
nothing (`trim_trim`).
-/

namespace Broadsheet

/-- The white space that a text begins with. -/
def leading (s : List Char) : List Char := s.takeWhile isBlank

/-- The white space that a text ends with, what it begins with apart. -/
def trailing (s : List Char) : List Char := ((trimStart s).reverse.takeWhile isBlank).reverse

theorem eq_append_trim (s : List Char) : s = leading s ++ trim s ++ trailing s := by
  rw [List.append_assoc, trim, trimEnd, trailing, ← List.reverse_append,
    List.takeWhile_append_dropWhile, List.reverse_reverse, leading, trimStart,
    List.takeWhile_append_dropWhile]

theorem blank_leading (s : List Char) : blank (leading s) := List.all_takeWhile

theorem blank_trailing (s : List Char) : blank (trailing s) := by
  rw [trailing, blank, List.all_reverse]
  exact List.all_takeWhile

/-- A trimmed text does not end with white space. -/
theorem isBlank_of_getLast?_trim {s : List Char} {c : Char} (h : (trim s).getLast? = some c) :
    isBlank c = false := by
  rw [trim, trimEnd, List.getLast?_reverse] at h
  have hhead := List.head?_dropWhile_not isBlank (trimStart s).reverse
  rwa [h] at hhead

/-- Nor does it begin with white space. -/
theorem isBlank_of_head?_trim {s : List Char} {c : Char} (h : (trim s).head? = some c) :
    isBlank c = false := by
  have hhead := List.head?_dropWhile_not isBlank s
  have hstart : trimStart s = trim s ++ trailing s := by
    rw [trim, trimEnd, trailing, ← List.reverse_append, List.takeWhile_append_dropWhile,
      List.reverse_reverse]
  rw [← trimStart, hstart, List.head?_append, h] at hhead
  exact hhead

theorem trimStart_of_blank {s : List Char} (h : blank s) : trimStart s = [] := by
  rw [trimStart, ← List.append_nil s, List.dropWhile_append_of_pos (List.all_eq_true.mp h)]
  rfl

theorem trim_eq_nil_iff {s : List Char} : trim s = [] ↔ blank s := by
  constructor
  · intro h
    rw [eq_append_trim s, h, List.append_nil, blank_append, blank_leading, blank_trailing]
    rfl
  · intro h
    rw [trim, trimStart_of_blank h]
    rfl

/-- A text without white space at its ends is left as it is. -/
theorem trim_eq_self {s : List Char} (hhead : ∀ c, s.head? = some c → isBlank c = false)
    (hlast : ∀ c, s.getLast? = some c → isBlank c = false) : trim s = s := by
  have hdrop {t : List Char} (ht : ∀ c, t.head? = some c → isBlank c = false) :
      t.dropWhile isBlank = t := by
    cases t with
    | nil => rfl
    | cons c t => exact List.dropWhile_cons_of_neg (by simp [ht c rfl])
  rw [trim, trimStart, hdrop hhead, trimEnd, hdrop, List.reverse_reverse]
  intro c hc
  exact hlast c (by rwa [List.head?_reverse] at hc)

/-- Trimming twice is trimming once. -/
theorem trim_trim (s : List Char) : trim (trim s) = trim s :=
  trim_eq_self (fun _ => isBlank_of_head?_trim) fun _ => isBlank_of_getLast?_trim

/-- What a trimmed text holds, the text holds. -/
theorem mem_of_mem_trim {s : List Char} {c : Char} (h : c ∈ trim s) : c ∈ s := by
  rw [eq_append_trim s]
  exact List.mem_append_left _ (List.mem_append_right _ h)

/-- White space alone is all at the beginning. -/
theorem trailing_eq_nil {s : List Char} (h : trim s = []) : trailing s = [] := by
  rw [trailing, trimStart_of_blank (trim_eq_nil_iff.mp h)]
  rfl

end Broadsheet

import Broadsheet.Proofs.Style.Cascade
import Broadsheet.Proofs.Text.Replacing

/-!
# Broadsheet.Proofs.Style.Sheets

Style sheets one after another.  A sheet that is complete can have any text put
behind it, and the rules of both texts together are the rules of the first with
those of the second laid over them, selector by selector and property by
property.  Complete means two things: every comment is closed, and the reading
of rules leaves nothing but white space.

* `CommentsClosed`, `CssRules.unread` — what makes a sheet complete;
* `CssRules.overlay` — rules laid over rules;
* `CssRules.dropComments_append`, `CssRules.scan_append` — comments and rules
  of two texts are those of the one and those of the other;
* `CssRules.parse_append` — the law for whole sheets.
-/

namespace Broadsheet

/-! ## Declarations over declarations -/

namespace Properties

theorem overlay_assoc (a b c : Properties) :
    (a.overlay b).overlay c = a.overlay (b.overlay c) := by
  apply Std.ExtTreeMap.ext_getElem?
  intro name
  simp only [getElem?_overlay, Option.or_assoc]

@[simp] theorem empty_overlay (a : Properties) : overlay ∅ a = a := by
  apply Std.ExtTreeMap.ext_getElem?
  intro name
  simp [getElem?_overlay]

@[simp] theorem overlay_self (a : Properties) : a.overlay a = a := by
  apply Std.ExtTreeMap.ext_getElem?
  intro name
  simp [getElem?_overlay]

end Properties

@[simp] theorem layEntry_none_left (a : Option Properties) : layEntry none a = a := by
  cases a <;> simp [layEntry]

@[simp] theorem layEntry_self (a : Option Properties) : layEntry a a = a := by
  cases a <;> simp [layEntry]

theorem layEntry_assoc (a b c : Option Properties) :
    layEntry (layEntry a b) c = layEntry a (layEntry b c) := by
  cases c with
  | none => rfl
  | some upper =>
      cases b with
      | none => simp [layEntry]
      | some middle => simp [layEntry, Properties.overlay_assoc]

/-! ## Comments -/

/-- A text in which every comment that begins also ends. -/
inductive CommentsClosed : List Char → Prop
  | nil : CommentsClosed []
  | char {c : Char} {s : List Char} :
      ¬ ['/', '*'] <+: c :: s → CommentsClosed s → CommentsClosed (c :: s)
  | comment {text s : List Char} :
      ¬ ['*', '/'] <:+: text → CommentsClosed s →
        CommentsClosed (['/', '*'] ++ text ++ ['*', '/'] ++ s)

/-- Text without slashes begins no comment. -/
theorem CommentsClosed.append {s : List Char} (hs : CommentsClosed s) :
    (t : List Char) → '/' ∉ t → CommentsClosed (t ++ s)
  | [], _ => hs
  | c :: t, h => by
      obtain ⟨hc, ht⟩ : '/' ≠ c ∧ '/' ∉ t := by simpa using h
      exact .char (fun hprefix => hc (List.cons_prefix_cons.mp hprefix).1) (hs.append t ht)

namespace CssRules

/-- What is still to be passed over of a comment is dropped. -/
theorem dropCommentsFrom_eq (k : Nat) (s : List Char) :
    dropCommentsFrom k s = dropComments (s.drop k) := by
  induction k generalizing s with
  | zero => rfl
  | succ k ih =>
      cases s with
      | nil => rw [List.drop_nil, dropCommentsFrom, dropComments, dropCommentsFrom]
      | cons c s => rw [dropCommentsFrom, ih, List.drop_succ_cons]

theorem dropComments_cons {c : Char} {s : List Char} (h : ¬ ['/', '*'] <+: c :: s) :
    dropComments (c :: s) = c :: dropComments s := by
  have hafter : after? ['/', '*'] (c :: s) = none := by
    rw [← Option.not_isSome_iff_eq_none, ← startsWith, startsWith_iff]
    exact h
  simp only [dropComments, dropCommentsFrom, hafter]

/-- A comment ends where its end first stands. -/
theorem cut?_commentEnd (s : List Char) :
    (text : List Char) → ¬ ['*', '/'] <:+: text →
      cut? ['*', '/'] (text ++ ['*', '/'] ++ s) = some (text, s)
  | [], _ => by simp [cut?, after?]
  | c :: text, h => by
      have ih := cut?_commentEnd s text fun hend => h (hend.trans (List.suffix_cons c text).isInfix)
      have hafter : after? ['*', '/'] (c :: (text ++ ['*', '/'] ++ s)) = none := by
        cases text with
        | nil => simp [after?]
        | cons d text =>
            have hne : ¬ ('*' = c ∧ '/' = d) := by
              rintro ⟨rfl, rfl⟩
              exact h (List.prefix_append ['*', '/'] text).isInfix
            simp only [List.cons_append, after?]
            grind
      rw [List.cons_append, List.cons_append]
      simp only [cut?, hafter, ih, Option.map_some]

theorem dropComments_comment {text : List Char} (h : ¬ ['*', '/'] <:+: text) (s : List Char) :
    dropComments (['/', '*'] ++ text ++ ['*', '/'] ++ s) = dropComments s := by
  have hdrop : ('*' :: (text ++ ['*', '/'] ++ s)).drop (text.length + 3) = s := by
    simp [List.drop_append]
  have hcons : ['/', '*'] ++ text ++ ['*', '/'] ++ s =
      '/' :: '*' :: (text ++ ['*', '/'] ++ s) := by simp
  rw [hcons, dropComments, dropCommentsFrom]
  simp only [after?, if_true, cut?_commentEnd s text h]
  rw [dropCommentsFrom_eq, hdrop]

/-- Comments are taken out of two texts apart, unless a slash that the one ends
with and a star that the other begins with make a comment together. -/
theorem dropComments_append {a : List Char} (ha : CommentsClosed a)
    (hslash : (dropComments a).getLast? ≠ some '/') (b : List Char) :
    dropComments (a ++ b) = dropComments a ++ dropComments b := by
  induction ha with
  | nil => rfl
  | @char c s hc hs ih =>
      rw [dropComments_cons hc] at hslash ⊢
      have hslash' : (dropComments s).getLast? ≠ some '/' := by
        intro hlast
        rw [List.getLast?_cons, hlast] at hslash
        exact hslash rfl
      have hc' : ¬ ['/', '*'] <+: c :: (s ++ b) := by
        intro hprefix
        obtain ⟨rfl, hstar⟩ := List.cons_prefix_cons.mp hprefix
        cases s with
        | nil => exact hslash rfl
        | cons d s =>
            obtain ⟨rfl, -⟩ := List.cons_prefix_cons.mp hstar
            exact hc (List.prefix_append ['/', '*'] s)
      rw [List.cons_append, dropComments_cons hc', ih hslash', List.cons_append]
  | @comment text s htext hs ih =>
      rw [dropComments_comment htext] at hslash ⊢
      rw [List.append_assoc, dropComments_comment htext, ih hslash]

/-! ## Rules -/

/-- The state of the reading after one more character. -/
def Scan.step : Scan → Char → Scan
  | .selector seen, c => if c = '{' then .block seen.reverse [] else .selector (c :: seen)
  | .block sel seen, c => if c = '}' then .selector [] else .block sel (c :: seen)

/-- What the reading has seen of a rule that did not end. -/
def Scan.pending : Scan → List Char
  | .selector seen => seen.reverse
  | .block sel seen => sel ++ '{' :: seen.reverse

/-- The end of a text, after its last rule. -/
def unread (s : List Char) : List Char := (s.foldl Scan.step (.selector [])).pending

/-- The rules of two texts are those of the first, and those that the reading
finds in the second from where it stands after the first. -/
theorem scan_append (state : Scan) (a b : List Char) :
    scan state (a ++ b) = scan state a ++ scan (a.foldl Scan.step state) b := by
  induction a generalizing state with
  | nil => cases state <;> rfl
  | cons c a ih =>
      rw [List.cons_append, List.foldl_cons]
      cases state with
      | selector seen =>
          simp only [scan, Scan.step]
          split
          · exact ih _
          · exact ih _
      | block sel seen =>
          simp only [scan, Scan.step]
          split
          · rw [ih, List.cons_append]
          · exact ih _

/-- Where only white space was left unread, no block is open. -/
theorem exists_selector_of_blank {state : Scan} (h : blank state.pending) :
    ∃ seen, state = .selector seen ∧ blank seen := by
  cases state with
  | selector seen => exact ⟨seen, rfl, by simpa [Scan.pending, blank] using h⟩
  | block sel seen =>
      have hbrace : isBlank '{' = false := by decide
      simp [Scan.pending, hbrace] at h

/-- A text that leaves only white space unread does not end with a slash. -/
theorem getLast?_ne_slash {s : List Char} (h : blank (unread s)) : s.getLast? ≠ some '/' := by
  intro hlast
  obtain ⟨init, rfl⟩ := List.getLast?_eq_some_iff.mp hlast
  have hblank : isBlank '/' = false := by decide
  rw [unread, List.foldl_append] at h
  cases hstate : init.foldl Scan.step (.selector []) with
  | selector seen => simp [hstate, Scan.step, Scan.pending, hblank] at h
  | block sel seen => simp [hstate, Scan.step, Scan.pending, hblank] at h

/-! ### White space before a rule -/

theorem trim_append {w : List Char} (hw : blank w) (s : List Char) : trim (w ++ s) = trim s := by
  rw [trim, trim, trimStart, trimStart, List.dropWhile_append_of_pos (List.all_eq_true.mp hw)]

theorem splitAt_ne_nil (p : Char → Bool) (s : List Char) : splitAt p s ≠ [] := by
  cases s with
  | nil => simp [splitAt]
  | cons c s =>
      rw [splitAt]
      split
      · simp
      · split
        · simp
        · simp

/-- White space before a list of selectors belongs to its first piece. -/
theorem splitAt_comma_append {w s piece : List Char} {pieces : List (List Char)} (hw : blank w)
    (hs : splitAt (· == ',') s = piece :: pieces) :
    splitAt (· == ',') (w ++ s) = (w ++ piece) :: pieces := by
  induction w with
  | nil => exact hs
  | cons c w ih =>
      obtain ⟨hc, hw⟩ : isBlank c ∧ blank w := by simpa using hw
      have hcomma : c ≠ ',' := by
        rintro rfl
        exact absurd hc (by decide)
      simp [splitAt, hcomma, ih hw]

theorem selectors_append {w : List Char} (hw : blank w) (s : List Char) :
    selectors (w ++ s) = selectors s := by
  obtain ⟨piece, pieces, hs⟩ := List.exists_cons_of_ne_nil (splitAt_ne_nil (· == ',') s)
  simp only [selectors, splitAt_comma_append hw hs, hs, List.map_cons, trim_append hw]

theorem foldl_addScanned_block {w : List Char} (hw : blank w) (b sel seen : List Char)
    (rules : CssRules) :
    (scan (.block (w ++ sel) seen) b).foldl addScanned rules =
      (scan (.block sel seen) b).foldl addScanned rules := by
  induction b generalizing seen with
  | nil => rfl
  | cons c b ih =>
      rw [scan, scan]
      split
      · rw [List.foldl_cons, List.foldl_cons, addScanned, addScanned, selectors_append hw]
      · exact ih _

/-- White space that was seen before a rule does not count. -/
theorem foldl_addScanned_selector {w : List Char} (hw : blank w) (b seen : List Char)
    (rules : CssRules) :
    (scan (.selector (seen ++ w)) b).foldl addScanned rules =
      (scan (.selector seen) b).foldl addScanned rules := by
  have hreverse : blank w.reverse := by simpa [blank] using hw
  induction b generalizing seen with
  | nil => rfl
  | cons c b ih =>
      rw [scan, scan]
      split
      · rw [List.reverse_append]
        exact foldl_addScanned_block hreverse b seen.reverse [] rules
      · exact ih (c :: seen)

/-! ## Rules over rules -/

/-- Rules with others laid over them: a selector has the declarations of both,
and where both have a property, `upper` wins. -/
def overlay (lower upper : CssRules) : CssRules :=
  lower ∪ upper.map fun selector props => (lower.getD selector ∅).overlay props

theorem getElem?_overlay (lower upper : CssRules) (selector : String) :
    (CssRules.overlay lower upper)[selector]? = layEntry lower[selector]? upper[selector]? := by
  rw [overlay, Std.ExtTreeMap.getElem?_union, Std.ExtTreeMap.getElem?_map,
    Std.ExtTreeMap.getD_eq_getD_getElem?]
  cases upper[selector]? <;> rfl

theorem getElem?_addRule (rules : CssRules) (s t : String) (props : Properties) :
    (addRule rules s props)[t]? = if s = t then layEntry rules[t]? (some props) else rules[t]? := by
  rw [addRule, Std.ExtTreeMap.getElem?_insert, Std.ExtTreeMap.getD_eq_getD_getElem?]
  by_cases h : s = t
  · simp [h, layEntry]
  · simp [h]

theorem overlay_empty (rules : CssRules) : CssRules.overlay rules ∅ = rules := by
  apply Std.ExtTreeMap.ext_getElem?
  intro selector
  simp [getElem?_overlay, layEntry]

/-- One more rule for the upper ones is one more rule for all of them. -/
theorem overlay_addRule (lower upper : CssRules) (s : String) (props : Properties) :
    CssRules.overlay lower (addRule upper s props) =
      addRule (CssRules.overlay lower upper) s props := by
  apply Std.ExtTreeMap.ext_getElem?
  intro t
  simp only [getElem?_overlay, getElem?_addRule]
  split
  · rw [layEntry_assoc]
  · rfl

theorem overlay_addScanned (lower upper : CssRules) (r : List Char × List Char) :
    CssRules.overlay lower (addScanned upper r) =
      addScanned (CssRules.overlay lower upper) r := by
  rw [addScanned, addScanned]
  induction selectors r.1 generalizing upper with
  | nil => rfl
  | cons s ss ih => rw [List.foldl_cons, List.foldl_cons, ih, overlay_addRule]

/-- Rules that are added one after another are laid over those before them. -/
theorem overlay_foldl_addScanned (lower upper : CssRules) (rs : List (List Char × List Char)) :
    CssRules.overlay lower (rs.foldl addScanned upper) =
      rs.foldl addScanned (CssRules.overlay lower upper) := by
  induction rs generalizing upper with
  | nil => rfl
  | cons r rs ih => rw [List.foldl_cons, List.foldl_cons, ih, overlay_addScanned]

/-! ## Whole sheets -/

/-- **Sheets compose**: the rules of a complete sheet with any text behind it
are the rules of the sheet with those of the text laid over them.  The text may
be anything.  It may begin with a star as well: a complete sheet leaves white
space at most, so no slash stands before the star. -/
theorem parse_append (a b : String) (hcomments : CommentsClosed a.toList)
    (hread : blank (unread (dropComments a.toList))) :
    parse (a ++ b) = CssRules.overlay (parse a) (parse b) := by
  obtain ⟨seen, hstate, hseen⟩ := exists_selector_of_blank hread
  have hrules : scan (.selector []) (dropComments (a ++ b).toList) =
      scan (.selector []) (dropComments a.toList) ++
        scan (.selector seen) (dropComments b.toList) := by
    rw [String.toList_append, dropComments_append hcomments (getLast?_ne_slash hread), scan_append,
      hstate]
  calc parse (a ++ b)
    _ = (scan (.selector ([] ++ seen)) (dropComments b.toList)).foldl addScanned (parse a) := by
        rw [parse, hrules, List.foldl_append, List.nil_append]
        rfl
    _ = (scan (.selector []) (dropComments b.toList)).foldl addScanned (parse a) :=
        foldl_addScanned_selector hseen _ [] _
    _ = CssRules.overlay (parse a) (parse b) := by
        rw [← overlay_empty (parse a), ← overlay_foldl_addScanned, overlay_empty]
        rfl

/-- A sheet with a brace inside a comment, an empty selector and a declaration
that is none. -/
def crowdedSheet : String := "p, \x7bcolor: red;; x\x7d/* \x7b */h1,p\x7bmargin: 0\x7d\n"

/-- A text that begins with a star and ends within a rule. -/
def looseSheet : String := "* \x7d, p\x7bcolor: blue\x7dh2\x7b"

/-- Behind the sheet, the text gives paragraphs another color and leaves them
their margin. -/
theorem crowdedSheet_append :
    CommentsClosed crowdedSheet.toList ∧ blank (unread (dropComments crowdedSheet.toList)) ∧
      parse (crowdedSheet ++ looseSheet) =
        CssRules.overlay (parse crowdedSheet) (parse looseSheet) ∧
      (parse (crowdedSheet ++ looseSheet))["p"]?.map Std.ExtTreeMap.toList =
        some [("color", "blue"), ("margin", "0")] := by
  have hparts : crowdedSheet.toList = "p, \x7bcolor: red;; x\x7d".toList ++
      (['/', '*'] ++ " \x7b ".toList ++ ['*', '/'] ++ ("h1,p\x7bmargin: 0\x7d\n".toList ++ [])) := by
    decide
  have hcomments : CommentsClosed crowdedSheet.toList := by
    rw [hparts]
    exact (CommentsClosed.comment (by decide) (CommentsClosed.nil.append _ (by decide))).append _
      (by decide)
  have hread : blank (unread (dropComments crowdedSheet.toList)) := by decide
  have happend := parse_append crowdedSheet looseSheet hcomments hread
  refine ⟨hcomments, hread, happend, ?_⟩
  decide +kernel

end CssRules

end Broadsheet

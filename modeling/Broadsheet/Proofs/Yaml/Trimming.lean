import Broadsheet.Proofs.Text.Trimming
import Broadsheet.Proofs.Yaml.Tokens
import Broadsheet.Yaml.Resolve

/-!
# Broadsheet.Proofs.Yaml.Trimming

What trimming does to a YAML text.  A text that begins with whole lines of
white space is, to the scanner, the trimmed text in a frame
(`Aligned.exists_frame`).  The text inside a frame has tokens if the framed text
has, and they are the same unless the framed text ends with a block scalar that
took in white space behind the text (`Scanner.exists_run_of_follows`).  So
trimming keeps the tokens of the texts that end tight, and of no others
(`Aligned.tokens?_trim_iff`), and with the tokens the meaning of a text
(`Trimmable.readMapping_trim`).
-/

namespace Broadsheet.Yaml

variable {f : Frame}

namespace Scanner

variable {s t a : Scanner}

/-- The block scalar that was read between two places of a reading, if it was one. -/
def blockRead? (a b : Scanner) : Option String :=
  match b.tokens with
  | .scalar text _ :: _ => if a.beginsBlock then some text else none
  | _ => none

theorem blockRead?_of_beginsBlock {a b : Scanner} {text : String} {plain : Bool}
    {tokens : List Token} (ha : a.beginsBlock = true)
    (hb : b.tokens = .scalar text plain :: tokens) : blockRead? a b = some text := by
  simp only [blockRead?, hb, ha, if_true]

theorem blockRead?_eq_none {a : Scanner} (ha : a.beginsBlock = false) (b : Scanner) :
    blockRead? a b = none := by
  rw [blockRead?]
  split <;> simp [ha]

/-- The block scalar that a text ends with, if it ends with one. -/
def lastBlock? : (fuel : Nat) → Scanner → Option String
  | 0, _ => none
  | fuel + 1, s =>
    s.ahead.bind fun a => a.next.bind fun b =>
      if b.cursor.rest.isEmpty then blockRead? a b else lastBlock? fuel b

theorem cursor_of_ahead (h : s.ahead = some a) :
    a.cursor = (s.skipSpace (s.cursor.rest.length + 1)).cursor := by
  obtain ⟨-, rfl⟩ := ahead_eq_some_iff.mp h
  rw [cursor_closeBlocks]
  rfl

theorem before_of_ahead (h : s.ahead = some a) : s.cursor.Before a.cursor := by
  rw [cursor_of_ahead h]
  exact (skipSpace_spec _ s).1

/-- Where nothing is ahead any more, there is no block scalar. -/
theorem lastBlock?_of_end (hs : (s.skipSpace (s.cursor.rest.length + 1)).cursor.rest = [])
    (fuel : Nat) : s.lastBlock? fuel = none := by
  cases fuel with
  | zero => rfl
  | succ fuel =>
      rw [lastBlock?]
      cases ha : s.ahead with
      | none => rfl
      | some a =>
          rw [← cursor_of_ahead ha] at hs
          rw [Option.bind_some, next_nil hs]
          cases hd : a.closeAllBlocks.dropKey with
          | none => rfl
          | some d =>
              have hrest : d.cursor.rest = [] := by rw [cursor_dropKey_closeAllBlocks hd, hs]
              simp [push, hrest, blockRead?]

/-- A block scalar has an indicator in front. -/
theorem exists_mem_of_lastBlock? {fuel : Nat} {text : String} (h : s.lastBlock? fuel = some text) :
    ∃ x ∈ s.cursor.rest, x = '|' ∨ x = '>' := by
  induction fuel generalizing s with
  | zero => cases h
  | succ fuel ih =>
      rw [lastBlock?] at h
      obtain ⟨a, ha, h⟩ := Option.bind_eq_some_iff.mp h
      obtain ⟨b, hb, h⟩ := Option.bind_eq_some_iff.mp h
      suffices ∃ x ∈ a.cursor.rest, x = '|' ∨ x = '>' by
        obtain ⟨x, hx, hindicator⟩ := this
        exact ⟨x, (before_of_ahead ha).suffix.mem hx, hindicator⟩
      split at h
      · cases hblock : a.beginsBlock with
        | false => simp [blockRead?_eq_none hblock] at h
        | true =>
            obtain ⟨-, x, r, hrest, hindicator⟩ := exists_of_beginsBlock hblock
            exact ⟨x, by simp [hrest], hindicator⟩
      · next hmore =>
          obtain ⟨x, hx, hindicator⟩ := ih h
          exact ⟨x, (before_of_next hb).suffix.mem hx, hindicator⟩

end Scanner

theorem Frame.Meets.length_le {c d : Cursor} (h : f.Meets c d) : c.rest.length ≤ d.rest.length := by
  obtain rfl | ⟨hc, -⟩ := h
  · simp [Cursor.framed]
  · simp [hc]

theorem Frame.Follows.mayEnd {s t : Scanner} (h : f.Follows s t) (ht : t.MayEnd) : s.MayEnd := by
  obtain ⟨hexpire, hhead⟩ := ht
  rw [h.keys] at hhead
  refine ⟨fun k hk hexpired => ?_, fun k hk => ?_⟩
  · refine hexpire (k.framed f) ?_ (SimpleKey.expired_of_before h.cursor.blank.before ?_)
    · rw [h.keys]
      exact List.mem_map.mpr ⟨some k, hk, rfl⟩
    · rwa [SimpleKey.expired_framed]
  · exact hhead (k.framed f) (by simp [List.head?_map, hk])

theorem Frame.Follows.ending {s t : Scanner} (h : f.Follows s t) : t.ending = s.ending :=
  (Scanner.ending_eq_iff h.indents (by rw [h.keys, List.length_map])).mpr h.tokens

namespace Scanner

variable {s t a : Scanner} {fuel fuel' : Nat} {tokens : List Token}

/-- Where nothing but white space is ahead, the text ends. -/
theorem rest_eq_nil_of_run
    (hgap : ∀ x ∈ (t.skipSpace (t.cursor.rest.length + 1)).cursor.rest, isGap x = true)
    (hrun : t.run (fuel + 1) = some tokens) :
    (t.skipSpace (t.cursor.rest.length + 1)).cursor.rest = [] := by
  rw [run_succ] at hrun
  obtain ⟨a, ha, hrun⟩ := Option.bind_eq_some_iff.mp hrun
  obtain ⟨b, hb, -⟩ := Option.bind_eq_some_iff.mp hrun
  rw [← cursor_of_ahead ha] at hgap ⊢
  cases hrest : a.cursor.rest with
  | nil => rfl
  | cons x r => simp [next_of_gap hrest (hgap x (by simp [hrest]))] at hb

/-- The reading of the framed text comes to the same token. -/
theorem ahead_of_follows {a' : Scanner}
    (h : f.Follows (s.skipSpace (s.cursor.rest.length + 1))
      (t.skipSpace (t.cursor.rest.length + 1)))
    (hs : (s.skipSpace (s.cursor.rest.length + 1)).cursor.rest ≠ []) (ha : t.ahead = some a') :
    ∃ a, s.ahead = some a ∧ a' = a.framed f := by
  obtain ⟨hexpire, rfl⟩ := ahead_eq_some_iff.mp ha
  rw [h.eq_framed hs] at hexpire ⊢
  refine ⟨_, ahead_eq_some_iff.mpr ⟨mayExpire_framed.mp hexpire, rfl⟩, ?_⟩
  rw [forgetKeys_framed]
  exact closeBlocks_framed _ _

/-- The end of the text inside the frame. -/
theorem run_of_follows_end
    (h : f.Follows (s.skipSpace (s.cursor.rest.length + 1))
      (t.skipSpace (t.cursor.rest.length + 1)))
    (hs : (s.skipSpace (s.cursor.rest.length + 1)).cursor.rest = [])
    (hrun : t.run (fuel' + 1) = some tokens) : s.run (fuel + 1) = some tokens := by
  have ht := rest_eq_nil_of_run (fun x hx =>
    f.isGap_of_mem x ((h.cursor.blank.suffix_after hs).mem hx)) hrun
  obtain ⟨hend, htokens⟩ := (run_end ht).mp hrun
  exact (run_end hs).mpr ⟨h.mayEnd hend, h.ending ▸ htokens⟩

/-- Where both texts have ended, what was read may still differ. -/
theorem exists_run_of_end (h : f.Follows s { t with tokens := s.tokens }) (hs : s.cursor.rest = [])
    (ht : t.cursor.rest = []) (hrun : t.run fuel' = some tokens) :
    ∃ tokens', s.run (fuel + 1) = some tokens' ∧ (tokens' = tokens ↔ s.tokens = t.tokens) := by
  cases fuel' with
  | zero => cases hrun
  | succ fuel' =>
      have hs' : s.skipSpace (s.cursor.rest.length + 1) = s := skipSpace_of_nil hs
      have ht' : t.skipSpace (t.cursor.rest.length + 1) = t := skipSpace_of_nil ht
      obtain ⟨hend, rfl⟩ := (run_end (by rw [ht', ht])).mp hrun
      rw [ht'] at hend ⊢
      have hend' : s.MayEnd := h.mayEnd hend
      have hrun' : s.run (fuel + 1) = some s.ending :=
        (run_end (by rw [hs', hs])).mpr (by rw [hs']; exact ⟨hend', rfl⟩)
      have hindents : t.indents = s.indents := h.indents
      have hkeys : t.keys.length = s.keys.length := (congrArg List.length h.keys).trans (by simp)
      exact ⟨_, hrun', ending_eq_iff hindents.symm hkeys.symm⟩

theorem beginsBlock_framed {x : Char} {r : List Char} (hs : s.cursor.rest = x :: r) :
    (s.framed f).beginsBlock = s.beginsBlock := by
  have hs' : (s.framed f).cursor.rest = x :: (r ++ f.after) := Cursor.rest_framed f hs
  rw [beginsBlock, beginsBlock, inFlow_framed, hs, hs']
  rfl

/-- The block scalar that was read from the framed text is that of the text itself, and white
space behind it where it ends with the text. -/
theorem next_of_framed_block (htight : Tight s.cursor.rest) (hblock : s.beginsBlock = true)
    (ht : (s.framed f).next = some t) :
    ∃ d, s.next = some d ∧ f.Follows d { t with tokens := d.tokens } ∧
      (t.cursor.rest ≠ [] → d.tokens = t.tokens) ∧
      (d.cursor.rest = [] → (d.tokens = t.tokens ↔
        ∀ text, blockRead? (s.framed f) t = some text → Tight text.toList)) := by
  obtain ⟨hflow, x, r, hs, hx⟩ := exists_of_beginsBlock hblock
  have hblock' : (s.framed f).beginsBlock = true := by rw [beginsBlock_framed hs, hblock]
  rw [next_of_beginsBlock (Cursor.rest_framed f hs) (by rw [inFlow_framed, hflow]) hx] at ht
  obtain ⟨d, text, more, tokens, hd, hdtokens, httokens, hfollows, htext, hgap, hend⟩ :=
    readBlockScalar_of_framed htight (by simp [hs]) ht
  refine ⟨d, by rw [next_of_beginsBlock hs hflow hx, hd], hfollows, fun hne => ?_, fun hnil => ?_⟩
  · rw [hdtokens, httokens, hend.resolve_right hne, List.append_nil]
  · rw [blockRead?_of_beginsBlock hblock' httokens, hdtokens, httokens]
    constructor
    · intro htokens text' htext'
      have hlist : text = text ++ more := by
        simpa only [List.cons.injEq, Token.scalar.injEq, String.ofList_inj, and_true] using htokens
      have hmore : more = [] := List.self_eq_append_right.mp hlist
      obtain rfl := Option.some.inj htext'
      rw [String.toList_ofList, hmore, List.append_nil]
      exact htext hnil
    · intro hall
      have hmore : Tight (text ++ more) := by simpa using hall _ rfl
      rw [hmore.eq_nil_of_gap hgap, List.append_nil]

/-- **One token of a framed text** is one of the text itself, block scalars at its end apart. -/
theorem exists_next_of_framed {x : Char} {r : List Char} (htight : Tight s.cursor.rest)
    (hs : s.cursor.rest = x :: r) (ht : (s.framed f).next = some t) :
    ∃ d, s.next = some d ∧ (s.cursor.skip 1).Before d.cursor ∧
      f.Follows d { t with tokens := d.tokens } ∧ (t.cursor.rest ≠ [] → d.tokens = t.tokens) ∧
      (d.cursor.rest = [] → (d.tokens = t.tokens ↔
        ∀ text, blockRead? (s.framed f) t = some text → Tight text.toList)) := by
  have hx : isGap x = false := isGap_of_next (Cursor.rest_framed f hs) ht
  cases hblock : s.beginsBlock with
  | true =>
      obtain ⟨d, hd, hfollows⟩ := next_of_framed_block htight hblock ht
      exact ⟨d, hd, advances_next hs hx d hd, hfollows⟩
  | false =>
      obtain ⟨d, hd, hfollows⟩ := keeps_next htight hs hblock t ht
      have hblock' : (s.framed f).beginsBlock = false := by rw [beginsBlock_framed hs, hblock]
      have htokens : d.tokens = t.tokens := hfollows.tokens.symm
      refine ⟨d, hd, advances_next hs hx d hd, htokens ▸ hfollows, fun _ => htokens, fun _ => ?_⟩
      simp [htokens, blockRead?_eq_none hblock']

/-- **The tokens of a framed text**: the text itself has tokens too, and they are the same if and
only if no block scalar at its end has a part in the white space behind it. -/
theorem exists_run_of_follows (h : f.Follows s t) (htight : Tight s.cursor.rest)
    (hmark : f.KeepsMark s.cursor) (hfuel : s.cursor.rest.length < fuel)
    (hrun : t.run fuel' = some tokens) :
    ∃ tokens', s.run fuel = some tokens' ∧
      (tokens' = tokens ↔ ∀ text, t.lastBlock? fuel' = some text → Tight text.toList) := by
  induction fuel' generalizing s t fuel with
  | zero => cases hrun
  | succ fuel' ih =>
      obtain ⟨k, rfl⟩ : ∃ k, fuel = k + 1 := ⟨fuel - 1, by omega⟩
      have hskip : f.Follows (s.skipSpace (s.cursor.rest.length + 1))
          (t.skipSpace (t.cursor.rest.length + 1)) :=
        follows_skipSpace h htight hmark (Nat.lt_succ_self _) (Nat.lt_succ_of_le h.cursor.length_le)
      by_cases hs : (s.skipSpace (s.cursor.rest.length + 1)).cursor.rest = []
      · have ht := rest_eq_nil_of_run (fun x hx =>
          f.isGap_of_mem x ((hskip.cursor.blank.suffix_after hs).mem hx)) hrun
        exact ⟨tokens, run_of_follows_end hskip hs hrun, by simp [lastBlock?_of_end ht]⟩
      · rw [run_succ] at hrun
        obtain ⟨_, ha', hrun⟩ := Option.bind_eq_some_iff.mp hrun
        obtain ⟨b', hb', hrun⟩ := Option.bind_eq_some_iff.mp hrun
        obtain ⟨a, ha, rfl⟩ := ahead_of_follows hskip hs ha'
        rw [← cursor_of_ahead ha] at hs
        obtain ⟨x, r, hrest⟩ := List.exists_cons_of_ne_nil hs
        have hbefore := before_of_ahead ha
        obtain ⟨b, hb, hadvance, hfollows, htokens, hend⟩ :=
          exists_next_of_framed (htight.suffix hbefore.suffix) hrest hb'
        have hread : s.cursor.Before b.cursor :=
          hbefore.trans ((Cursor.before_skip (by simp [hrest])).trans hadvance)
        have hlt := Nat.lt_of_lt_of_le (hadvance.length_lt_of_skip hrest) hbefore.length_le
        have hrest' : (a.framed f).cursor.rest = x :: (r ++ f.after) := Cursor.rest_framed f hrest
        rw [hrest', List.isEmpty_cons, if_neg (by decide)] at hrun
        rw [run_succ, ha, Option.bind_some, hb, Option.bind_some, hrest, List.isEmpty_cons,
          if_neg (by decide), lastBlock?, ha', Option.bind_some, hb', Option.bind_some]
        by_cases hnil : b'.cursor.rest = []
        · have hnil' : b.cursor.rest = [] := List.eq_nil_of_length_eq_zero
            (Nat.le_zero.mp (by simpa [hnil] using hfollows.cursor.length_le))
          obtain ⟨j, rfl⟩ : ∃ j, k = j + 1 := ⟨k - 1, by omega⟩
          obtain ⟨tokens', hrun', htokens'⟩ := exists_run_of_end hfollows hnil' hnil hrun
          rw [hnil, List.isEmpty_nil, if_pos rfl]
          exact ⟨tokens', hrun', htokens'.trans (hend hnil')⟩
        · have hfollows' : f.Follows b b' := ⟨hfollows.cursor, hfollows.indents, hfollows.keys,
            (htokens hnil).symm, hfollows.keyAllowed⟩
          rw [List.isEmpty_eq_false_iff.mpr hnil, if_neg (by decide)]
          exact ih hfollows' (htight.suffix hread.suffix) (keepsMark_of_before hread hlt)
            (by omega) hrun

end Scanner

/-! ## Leading lines -/

/-- White space that ends where a line begins. -/
structure LinesAhead (lead u : List Char) : Prop where
  gap : ∀ x ∈ lead, isGap x = true
  ends : ∀ x, lead.getLast? = some x → isBreak x = true
  /-- Other text follows. -/
  next : ∀ x, u.head? = some x → isGap x = false

theorem LinesAhead.of_append {first lead u : List Char} (h : LinesAhead (first ++ lead) u) :
    LinesAhead lead u where
  gap x hx := h.gap x (List.mem_append_right first hx)
  ends x hx := h.ends x (by rw [List.getLast?_append, hx, Option.some_or])
  next := h.next

/-- White space that is read does not go beyond the lines. -/
theorem LinesAhead.exists_append {lead u read rest : List Char} (h : LinesAhead lead u)
    (hrest : lead ++ u = read ++ rest) (hread : ∀ x ∈ read, isGap x = true) :
    ∃ lead', lead = read ++ lead' ∧ rest = lead' ++ u := by
  obtain ⟨more, hread', hu⟩ | ⟨lead', hlead, hrest⟩ := List.append_eq_append_iff.mp hrest
  · cases more with
    | nil => exact ⟨[], by simpa using hread'.symm, by simpa using hu.symm⟩
    | cons x more =>
        have hx := h.next x (by simp [hu])
        simp [hread x (by simp [hread'])] at hx
  · exact ⟨lead', hlead, hrest⟩

namespace Scanner

variable {s : Scanner} {lead u : List Char} {fuel fuel' : Nat}

theorem skipSpace_congr (hfuel : s.cursor.rest.length < fuel)
    (hfuel' : s.cursor.rest.length < fuel') :
    s.skipSpace fuel = s.skipSpace fuel' := by
  induction fuel generalizing s fuel' with
  | zero => omega
  | succ fuel ih =>
      obtain ⟨k, rfl⟩ : ∃ k, fuel' = k + 1 := ⟨fuel' - 1, by omega⟩
      rw [skipSpace_succ, skipSpace_succ]
      split
      · next hbreak =>
          have hlt : s.lineRest.skipBreak.rest.length < s.cursor.rest.length := by
            obtain ⟨x, r, hx⟩ := List.exists_cons_of_ne_nil (l := s.lineRest.rest) (by
              rintro h
              simp [h] at hbreak)
            exact Nat.lt_of_lt_of_le
              (Cursor.length_takeBreak_lt hx (by simpa [hx] using hbreak))
              s.before_lineRest.length_le
          exact ih (Nat.lt_of_lt_of_le hlt (Nat.le_of_lt_succ hfuel))
            (Nat.lt_of_lt_of_le hlt (Nat.le_of_lt_succ hfuel'))
      · rfl

/-- The place behind the blanks that a line of white space begins with. -/
theorem lineRest_of_gap {x : Char} {r : List Char} (hs : s.cursor.rest = x :: r)
    (hx : isGap x = true) (hallowed : s.keyAllowed = true) (hflow : s.inFlow = false)
    {y : Char} {r' : List Char} (hrest : (s.cursor.skipWhile (· == ' ')).rest = y :: r')
    (hy : isGap y = true) :
    s.lineRest = s.cursor.skipWhile (· == ' ') := by
  have hskipped : s.isSkipped = (· == ' ') := by
    funext z
    simp [isSkipped, hallowed, hflow]
  have hunmark : s.cursor.unmark = s.cursor := by
    have hx : x ≠ '\uFEFF' := by
      rintro rfl
      simp [isGap, isSpace, isBreak] at hx
    simp [Cursor.unmark, hs, hx]
  have hcomment : y ≠ '#' := by
    rintro rfl
    simp [isGap, isSpace, isBreak] at hy
  rw [lineRest, hskipped, hunmark, Cursor.skipWithComment]
  exact if_neg (by simp [hrest, hcomment])

/-- The first of some lines of white space ends in a line break, or a tab stands in it. -/
theorem exists_lineRest (h : LinesAhead lead u) (hs : s.cursor.rest = lead ++ u) (hne : lead ≠ [])
    (hallowed : s.keyAllowed = true) (hflow : s.inFlow = false) :
    ∃ y lead', s.lineRest.rest = y :: (lead' ++ u) ∧ LinesAhead (y :: lead') u ∧
      (y = '\t' ∨ isBreak y = true) ∧
        s.lineRest.index + (lead'.length + 1) = s.cursor.index + lead.length := by
  obtain ⟨x, lead, rfl⟩ := List.exists_cons_of_ne_nil hne
  have hrun : ∀ y ∈ s.cursor.run (· == ' '), y = ' ' := fun y hy => by
    simpa using List.all_eq_true.mp List.all_takeWhile y hy
  have hsplit : x :: lead ++ u =
      s.cursor.run (· == ' ') ++ (s.cursor.skipWhile (· == ' ')).rest := by
    rw [← hs, Cursor.rest_skipWhile]
    exact List.takeWhile_append_dropWhile.symm
  obtain ⟨lead', hlead, hrest⟩ := h.exists_append hsplit fun y hy => by rw [hrun y hy]; rfl
  have hlines : LinesAhead lead' u := by
    rw [hlead] at h
    exact h.of_append
  cases lead' with
  | nil =>
      -- lines do not end in blanks
      rw [List.append_nil] at hlead
      obtain ⟨z, hz⟩ : ∃ z, (x :: lead).getLast? = some z := ⟨_, List.getLast?_cons⟩
      have hbreak := h.ends z hz
      rw [hrun z (hlead ▸ List.mem_of_getLast? hz)] at hbreak
      cases hbreak
  | cons y lead' =>
      have hy := hlines.gap y (by simp)
      have hblank : y ≠ ' ' := by simpa using Cursor.skipWhile_stops hrest
      rw [lineRest_of_gap hs (h.gap x (by simp)) hallowed hflow hrest hy]
      refine ⟨y, lead', hrest, hlines, by simpa [isGap, isSpace, hblank] using hy, ?_⟩
      have hindex : (s.cursor.skipWhile (· == ' ')).index =
          s.cursor.index + (s.cursor.run (· == ' ')).length := rfl
      rw [hindex, hlead, List.length_append, List.length_cons, Nat.add_assoc]

/-- Lines of white space before a text only move its place; a tab among them is left standing. -/
theorem skipSpace_leading (h : LinesAhead lead u) (hs : s.cursor.rest = lead ++ u)
    (hcolumn : s.cursor.column = 0) (hallowed : s.keyAllowed = true) (hflow : s.inFlow = false)
    (hfuel : s.cursor.rest.length < fuel) :
    (∃ line, s.skipSpace fuel =
      { s with cursor := ⟨u, s.cursor.index + lead.length, line, 0⟩ }.skipSpace (u.length + 1)) ∨
      ∃ r, (s.skipSpace fuel).cursor.rest = '\t' :: r := by
  induction fuel generalizing s lead with
  | zero => omega
  | succ fuel ih =>
      by_cases hlead : lead = []
      · subst hlead
        refine .inl ⟨s.cursor.line, ?_⟩
        obtain ⟨⟨rest, index, line, column⟩, indents, keyAllowed, keys, tokens⟩ := s
        obtain rfl : rest = u := hs
        obtain rfl : column = 0 := hcolumn
        exact skipSpace_congr hfuel (Nat.lt_succ_self _)
      · obtain ⟨y, lead', hrest, hlines, hy, hindex⟩ := exists_lineRest h hs hlead hallowed hflow
        rw [skipSpace_succ, hrest, List.head?_cons, Option.any_some]
        obtain rfl | hbreak := hy
        · exact .inr ⟨lead' ++ u, by simpa [isBreak] using hrest⟩
        · obtain ⟨read, hread, hindex', hgap⟩ := (Cursor.blank_takeBreak s.lineRest).rest
          rw [hrest] at hread
          obtain ⟨lead'', hlead', hrest'⟩ := hlines.exists_append hread hgap
          have hlt : s.lineRest.skipBreak.rest.length < s.cursor.rest.length :=
            Nat.lt_of_lt_of_le (Cursor.length_takeBreak_lt hrest hbreak) s.before_lineRest.length_le
          have hlength : s.lineRest.skipBreak.index + lead''.length =
              s.cursor.index + lead.length := by
            have := congrArg List.length hlead'
            simp only [List.length_cons, List.length_append] at this
            have : s.lineRest.skipBreak.index = s.lineRest.index + read.length := hindex'
            omega
          rw [if_pos hbreak, hallowed, Bool.true_or]
          have hlines' : LinesAhead lead'' u := by
            rw [hlead'] at hlines
            exact hlines.of_append
          have hnext := ih (s := { s with cursor := s.lineRest.skipBreak, keyAllowed := true })
            hlines' hrest' (Cursor.column_takeBreak hrest hbreak) rfl hflow
            (Nat.lt_of_lt_of_le hlt (Nat.le_of_lt_succ hfuel))
          simpa only [hlength] using hnext

/-- The reading of a text only depends on what stands behind the white space ahead. -/
theorem ahead_congr {t : Scanner} (h : s.skipSpace (s.cursor.rest.length + 1) =
    t.skipSpace (t.cursor.rest.length + 1)) : s.ahead = t.ahead := by
  rw [ahead, ahead, h]

end Scanner

/-! ## Trimming -/

theorem isBlank_of_isGap {c : Char} (h : isGap c = true) : isBlank c = true := by
  obtain rfl | rfl | rfl | rfl | rfl | rfl | rfl := gap_cases h <;> decide

theorem tight_trim (s : List Char) : Tight (trim s) := by
  intro c hc
  cases hgap : isGap c with
  | false => rfl
  | true => simpa [isBlank_of_isGap hgap] using isBlank_of_getLast?_trim hc

/-- The block scalar that a text ends with, if it ends with one. -/
def lastBlock? (s : List Char) : Option String := (Scanner.start s).lastBlock? (s.length + 1)

/-- Whether a text does not end with a block scalar that itself ends in white space. -/
def EndsTight (s : List Char) : Prop := ∀ text, lastBlock? s = some text → Tight text.toList

/-- A text without the indicators of block scalars ends tight. -/
theorem EndsTight.of_noIndicators {s : List Char} (h : ∀ x ∈ s, x ≠ '|' ∧ x ≠ '>') :
    EndsTight s := by
  intro text htext
  obtain ⟨x, hx, hindicator⟩ := Scanner.exists_mem_of_lastBlock? htext
  exact absurd hindicator (not_or.mpr (h x hx))

/-- A text that trimming takes nothing from but whole lines before it and white space behind it. -/
structure Aligned (s : List Char) : Prop where
  leading_gap : ∀ c ∈ leading s, isGap c = true
  /-- The first line with content is not indented. -/
  leading_ends : ∀ c, (leading s).getLast? = some c → isBreak c = true
  /-- No byte order mark comes to stand at the beginning. -/
  mark : leading s = [] ∨ (trim s).head? ≠ some '\uFEFF'
  trailing_gap : ∀ c ∈ trailing s, isGap c = true

/-- A text that trimming takes nothing from but what is white space to YAML: no block scalar has a
part in it. -/
structure Trimmable (s : List Char) : Prop extends Aligned s where
  block : EndsTight s

namespace Aligned

variable {s : List Char} (hs : Aligned s)

include hs

theorem linesAhead : LinesAhead (leading s) (trim s ++ trailing s) where
  gap := hs.leading_gap
  ends := hs.leading_ends
  next x hx := by
    cases hcore : trim s with
    | nil => simp [hcore, trailing_eq_nil hcore] at hx
    | cons c core =>
        obtain rfl : c = x := by simpa [hcore] using hx
        cases hgap : isGap c with
        | false => rfl
        | true =>
            have hblank : isBlank c = false := isBlank_of_head?_trim (by rw [hcore]; rfl)
            simp [isBlank_of_isGap hgap] at hblank

/-- A text that may be trimmed is the trimmed text in a frame. -/
theorem exists_frame {a b : Scanner} (ha : (Scanner.start s).ahead = some a)
    (hb : a.next = some b) :
    ∃ f : Frame, f.index = (leading s).length ∧
      (Scanner.start s).ahead = ((Scanner.start (trim s)).framed f).ahead := by
  have hrest : (Scanner.start s).cursor.rest = leading s ++ (trim s ++ trailing s) := by
    rw [← List.append_assoc]
    exact eq_append_trim s
  obtain ⟨line, hline⟩ | ⟨r, htab⟩ := Scanner.skipSpace_leading hs.linesAhead hrest rfl rfl rfl
    (Nat.lt_succ_self _)
  · refine ⟨⟨trailing s, (leading s).length, line, hs.trailing_gap⟩, rfl, Scanner.ahead_congr ?_⟩
    refine hline.trans ?_
    simp [Scanner.framed, Cursor.framed, Scanner.start, Cursor.start]
  · rw [← Scanner.cursor_of_ahead ha] at htab
    simp [Scanner.next_of_gap htab rfl] at hb

/-- **Trimming and tokens**: trimming leaves a text with tokens, and they are the same if and only
if the text does not end with a block scalar that itself ends in white space. -/
theorem exists_tokens?_trim {tokens : List Token} (h : tokens? s = some tokens) :
    ∃ tokens', tokens? (trim s) = some tokens' ∧ (tokens' = tokens ↔ EndsTight s) := by
  rw [tokens?] at h ⊢
  split at h
  · next hallowed =>
      have hallowed' : (trim s).all isAllowed = true := by
        rw [eq_append_trim s, List.all_append, List.all_append] at hallowed
        simp_all
      rw [if_pos hallowed', EndsTight, lastBlock?, Scanner.lastBlock?]
      rw [Scanner.run_succ] at h
      obtain ⟨a, ha, hnext⟩ := Option.bind_eq_some_iff.mp h
      obtain ⟨b, hb, -⟩ := Option.bind_eq_some_iff.mp hnext
      obtain ⟨f, hindex, hahead⟩ := hs.exists_frame ha hb
      rw [hahead, ← Scanner.run_succ] at h
      rw [hahead]
      refine Scanner.exists_run_of_follows (f.follows_framed _) (tight_trim s) (fun _ => ?_)
        (Nat.lt_succ_self _) h
      exact hs.mark.imp_left fun hlead => by rw [hindex, hlead, List.length_nil]
  · cases h

theorem tokens?_trim_iff {tokens : List Token} (h : tokens? s = some tokens) :
    tokens? (trim s) = some tokens ↔ EndsTight s := by
  obtain ⟨tokens', htokens', hiff⟩ := hs.exists_tokens?_trim h
  rw [htokens', Option.some.injEq, hiff]

end Aligned

theorem exists_tokens?_of_readMapping {s : List Char} {entries : List (String × Value)}
    (h : readMapping s = some entries) : ∃ tokens, tokens? s = some tokens := by
  obtain ⟨d, hd, -⟩ := Option.bind_eq_some_iff.mp h
  obtain ⟨tokens, htokens, -⟩ := Option.bind_eq_some_iff.mp hd
  exact ⟨tokens, htokens⟩

/-- **Trimming keeps the meaning** of a text that may be trimmed. -/
theorem Trimmable.readMapping_trim {s : List Char} (hs : Trimmable s)
    {entries : List (String × Value)} (h : readMapping s = some entries) :
    readMapping (trim s) = some entries := by
  obtain ⟨tokens, htokens⟩ := exists_tokens?_of_readMapping h
  have hdocument : Document.ofText (trim s) = Document.ofText s := by
    rw [Document.ofText, Document.ofText, (hs.tokens?_trim_iff htokens).mpr hs.block, htokens]
  rw [← h, readMapping, readMapping, hdocument]

end Broadsheet.Yaml

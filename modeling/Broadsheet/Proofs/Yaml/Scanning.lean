import Broadsheet.Proofs.Yaml.Blocks
import Broadsheet.Proofs.Yaml.Names
import Broadsheet.Proofs.Yaml.Plain

/-!
# Broadsheet.Proofs.Yaml.Scanning

The scanner in a framed text.  `Scanner.framed` is where the reading of the
framed text stands when that of the text stands at `s`; indentation, keys and
the white space between tokens are the same for both.  The two part only where
the text ends: there the framed reading may be somewhere in the white space
behind the text, which `Frame.Follows` allows for.

* `run_succ` — a reading skips white space (`Scanner.ahead`) and takes one token;
* `run_end` — what is read where nothing is ahead any more;
* `follows_skipSpace` — skipping white space keeps to the other reading.
-/

namespace Broadsheet.Yaml

variable {f : Frame}

/-! ## Framed scanners -/

/-- A key of the framed text. -/
def SimpleKey.framed (f : Frame) (k : SimpleKey) : SimpleKey :=
  { k with index := k.index + f.index, line := k.line + f.line }

namespace Scanner

/-- The reading of the framed text, where that of the text itself stands. -/
def framed (f : Frame) (s : Scanner) : Scanner :=
  { s with
    cursor := s.cursor.framed f
    keys := s.keys.map (Option.map (SimpleKey.framed f)) }

variable {s : Scanner}

@[simp] theorem inFlow_framed (s : Scanner) : (s.framed f).inFlow = s.inFlow := by
  simp [inFlow, framed]

@[simp] theorem contentColumn_framed (s : Scanner) :
    (s.framed f).contentColumn = s.contentColumn := rfl

theorem push_framed (s : Scanner) (t : Token) : (s.framed f).push t = (s.push t).framed f := rfl

theorem skip_framed {n : Nat} (h : n ≤ s.cursor.rest.length) :
    (s.framed f).skip n = (s.skip n).framed f := by
  simp only [skip, framed, Cursor.skip_framed h]

/-- Dropping a key does not depend on where it stands. -/
theorem dropKey_framed (s : Scanner) : (s.framed f).dropKey = s.dropKey.map (framed f) := by
  match hkeys : s.keys with
  | [] => simp [dropKey, framed, hkeys]
  | none :: ks => simp [dropKey, framed, hkeys]
  | some k :: ks =>
      simp only [dropKey, framed, hkeys, List.map_cons, Option.map_some, SimpleKey.framed]
      cases k.required <;> rfl

/-- Blocks are closed by their columns, which a frame leaves as they are. -/
theorem closeBlocks_framed (above : Nat → Bool) (s : Scanner) :
    (s.framed f).closeBlocks above = (s.closeBlocks above).framed f := by
  rw [closeBlocks, closeBlocks, inFlow_framed]
  split <;> rfl

theorem closeAllBlocks_framed (s : Scanner) :
    (s.framed f).closeAllBlocks = s.closeAllBlocks.framed f :=
  closeBlocks_framed _ s

theorem openBlock_framed (s : Scanner) (column position : Nat) (t : Token) :
    (s.framed f).openBlock column position t = (s.openBlock column position t).framed f := by
  rw [openBlock, openBlock, inFlow_framed, contentColumn_framed]
  split <;> rfl

/-- A key that is noted in the framed text is the one of the text, moved. -/
theorem saveKey_framed (s : Scanner) : (s.framed f).saveKey = s.saveKey.map (framed f) := by
  have hallowed : (s.framed f).keyAllowed = s.keyAllowed := rfl
  rw [saveKey, saveKey, hallowed]
  split
  · rw [dropKey_framed]
    cases s.dropKey with
    | none => rfl
    | some d =>
        simp only [Option.map_some, Option.bind_eq_bind, Option.bind_some, inFlow_framed]
        simp [framed, SimpleKey.framed, Cursor.framed, List.map_tail]
  · rfl

end Scanner

/-! ## Keys -/

/-- Whether a key began on an earlier line or too many characters ago. -/
def SimpleKey.expired (c : Cursor) (k : SimpleKey) : Bool :=
  k.line < c.line || k.index + 1024 < c.index

@[simp] theorem SimpleKey.expired_framed (c : Cursor) (k : SimpleKey) :
    (k.framed f).expired (c.framed f) = k.expired c := by
  have hindex : k.index + f.index + 1024 < c.index + f.index ↔ k.index + 1024 < c.index := by omega
  simp [expired, framed, Cursor.framed, hindex]

/-- A key that is too far back stays so. -/
theorem SimpleKey.expired_of_before {c d : Cursor} {k : SimpleKey} (h : c.Before d)
    (hk : k.expired c = true) : k.expired d = true := by
  obtain ⟨read, -, hindex⟩ := h.rest
  have hline := h.line
  simp only [expired, Bool.or_eq_true, decide_eq_true_eq] at hk ⊢
  omega

namespace Scanner

variable {s t : Scanner}

/-- Whether no key has to be one that is too far back. -/
def MayExpire (s : Scanner) : Prop :=
  ∀ k, some k ∈ s.keys → k.expired s.cursor = true → k.required = false

/-- The reading without the keys that are too far back. -/
def forgetKeys (s : Scanner) : Scanner :=
  { s with keys := s.keys.map (Option.filter fun k => !k.expired s.cursor) }

/-- One key: it is forgotten if it is too far back, which fails for a key that has to be one. -/
theorem expireKey_eq_some_iff {c : Cursor} {k result : Option SimpleKey} :
    expireKey c k = some result ↔
      (∀ k', k = some k' → k'.expired c = true → k'.required = false) ∧
        (k.filter fun k => !k.expired c) = result := by
  cases k with
  | none => simp [expireKey]
  | some k =>
      have hexpire : expireKey c (some k) =
          if k.expired c then if k.required then none else some none else some (some k) := rfl
      rw [hexpire, Option.filter_some]
      cases hk : k.expired c with
      | false => simp [hk]
      | true => cases hrequired : k.required <;> simp [hk, hrequired]

/-- The same for all keys at once. -/
theorem mapM_expireKey_eq_some_iff {c : Cursor} {keys result : List (Option SimpleKey)} :
    keys.mapM (expireKey c) = some result ↔
      (∀ k, some k ∈ keys → k.expired c = true → k.required = false) ∧
        keys.map (Option.filter fun k => !k.expired c) = result := by
  induction keys generalizing result with
  | nil => simp
  | cons k keys ih =>
      rw [List.mapM_cons]
      constructor
      · intro h
        obtain ⟨k', hk, h⟩ := Option.bind_eq_some_iff.mp h
        obtain ⟨keys', hkeys, h⟩ := Option.bind_eq_some_iff.mp h
        cases h
        obtain ⟨hrequired, rfl⟩ := expireKey_eq_some_iff.mp hk
        obtain ⟨hrequireds, rfl⟩ := ih.mp hkeys
        refine ⟨fun key hmem => ?_, rfl⟩
        obtain rfl | hmem := List.mem_cons.mp hmem
        · exact hrequired key rfl
        · exact hrequireds key hmem
      · rintro ⟨hrequired, rfl⟩
        have hk : expireKey c k = some _ :=
          expireKey_eq_some_iff.mpr ⟨fun key hkey => hrequired key (by simp [hkey]), rfl⟩
        have hkeys : keys.mapM (expireKey c) = some _ :=
          ih.mpr ⟨fun key hmem => hrequired key (by simp [hmem]), rfl⟩
        rw [hk, hkeys]
        rfl

/-- Keys that are too far back are forgotten, if none of them has to be one. -/
theorem expireKeys_eq_some_iff : s.expireKeys = some t ↔ s.MayExpire ∧ s.forgetKeys = t := by
  constructor
  · intro h
    obtain ⟨keys, hkeys, h⟩ := Option.bind_eq_some_iff.mp h
    cases h
    obtain ⟨hexpire, rfl⟩ := mapM_expireKey_eq_some_iff.mp hkeys
    exact ⟨hexpire, rfl⟩
  · rintro ⟨hexpire, rfl⟩
    have hkeys : s.keys.mapM (expireKey s.cursor) = some _ :=
      mapM_expireKey_eq_some_iff.mpr ⟨hexpire, rfl⟩
    rw [expireKeys, hkeys]
    rfl

/-- Distances to keys are the same in the framed text. -/
theorem mayExpire_framed : (s.framed f).MayExpire ↔ s.MayExpire := by
  constructor
  · intro h k hk hexpired
    exact h (k.framed f) (List.mem_map.mpr ⟨some k, hk, rfl⟩) (by simpa [framed] using hexpired)
  · intro h k hk hexpired
    obtain ⟨_ | k', hk', hframed⟩ := List.mem_map.mp hk
    · cases hframed
    · cases hframed
      exact h k' hk' (by simpa [framed] using hexpired)

theorem forgetKeys_framed (s : Scanner) : (s.framed f).forgetKeys = s.forgetKeys.framed f := by
  have hkey (k : Option SimpleKey) :
      ((k.map (SimpleKey.framed f)).filter fun k => !k.expired (s.cursor.framed f)) =
        (k.filter fun k => !k.expired s.cursor).map (SimpleKey.framed f) := by
    cases k with
    | none => rfl
    | some k =>
        simp only [Option.map_some, Option.filter_some, SimpleKey.expired_framed]
        split <;> rfl
  simp [forgetKeys, framed, hkey]

/-! ## The end of a text -/

/-- Whether no key has to be one that the text ends in. -/
def MayEnd (s : Scanner) : Prop :=
  s.MayExpire ∧ ∀ k, s.keys.head? = some (some k) → k.required = false

/-- A key that is forgotten may not be missing either. -/
theorem mayEnd_iff : s.MayEnd ↔
    s.MayExpire ∧ ∀ k, s.forgetKeys.keys.head? = some (some k) → k.required = false := by
  refine and_congr_right fun hexpire => ?_
  cases hkeys : s.keys with
  | nil => simp [forgetKeys, hkeys]
  | cons key ks =>
      cases key with
      | none => simp [forgetKeys, hkeys]
      | some k =>
          have hk := hexpire k (by simp [hkeys])
          cases hexpired : k.expired s.cursor with
          | false => simp [forgetKeys, hkeys, hexpired]
          | true => simp [forgetKeys, hkeys, hexpired, hk hexpired]

/-- A key that was dropped did not have to be one; the place, the blocks and the tokens stay. -/
theorem dropKey_spec (h : s.dropKey = some t) :
    (∀ k, s.keys.head? = some (some k) → k.required = false) ∧ t.cursor = s.cursor ∧
      t.indents = s.indents ∧ t.tokens = s.tokens ∧ t.keys.length = s.keys.length := by
  rw [dropKey] at h
  split at h
  · next k ks hkeys =>
      split at h
      · cases h
      · next hrequired =>
          cases h
          simpa [hkeys] using hrequired
  · next hkeys =>
      cases h
      refine ⟨fun k hk => ?_, rfl, rfl, rfl, rfl⟩
      obtain ⟨ks, hks⟩ := List.head?_eq_some_iff.mp hk
      exact absurd hks (hkeys k ks)

/-- A key that does not have to be one may be dropped. -/
theorem exists_dropKey (h : ∀ k, s.keys.head? = some (some k) → k.required = false) :
    ∃ t, s.dropKey = some t := by
  rw [dropKey]
  split
  · next k ks hkeys => simp [h k (by simp [hkeys])]
  · exact ⟨s, rfl⟩

/-- Outside flow collections, every open block is closed with a token of its own. -/
theorem closeAllBlocks_eq (s : Scanner) :
    s.closeAllBlocks =
      if s.inFlow then s
      else { s with
        indents := []
        tokens := List.replicate s.indents.length .blockEnd ++ s.tokens } := by
  have hall : s.indents.takeWhile (fun _ => true) = s.indents := by
    have h : (s.indents ++ []).takeWhile (fun _ => true) = s.indents ++ [] :=
      List.takeWhile_append_of_pos fun _ _ => rfl
    rwa [List.append_nil] at h
  simp only [closeAllBlocks, closeBlocks, hall, List.drop_length]

/-- It is the same to close some blocks and then the others. -/
theorem closeAllBlocks_closeBlocks (above : Nat → Bool) (s : Scanner) :
    (s.closeBlocks above).closeAllBlocks = s.closeAllBlocks := by
  rw [closeAllBlocks_eq, closeAllBlocks_eq, closeBlocks]
  cases hflow : s.inFlow with
  | true => simp [hflow]
  | false =>
      have hflow' : s.keys.length = 1 := by simpa [inFlow] using hflow
      have hle : (s.indents.takeWhile above).length ≤ s.indents.length :=
        (List.takeWhile_prefix above).length_le
      simp only [inFlow, hflow', bne_self_eq_false, Bool.false_eq_true, if_false, List.length_drop,
        ← List.append_assoc, List.replicate_append_replicate, Nat.sub_add_cancel hle]

/-- The tokens of a text that ends here. -/
def ending (s : Scanner) : List Token := (.streamEnd :: s.closeAllBlocks.tokens).reverse

/-- Two readings with the same blocks open end in the same tokens exactly if they have the same
ones so far. -/
theorem ending_eq_iff (hindents : t.indents = s.indents) (hkeys : t.keys.length = s.keys.length) :
    t.ending = s.ending ↔ t.tokens = s.tokens := by
  have hflow : t.inFlow = s.inFlow := by rw [inFlow, inFlow, hkeys]
  rw [ending, ending, closeAllBlocks_eq, closeAllBlocks_eq, hflow]
  split
  · simp
  · simp [hindents]

/-- The reading before the next token: white space is left behind, and the blocks that end before
the token are closed. -/
def ahead (s : Scanner) : Option Scanner := do
  let s ← (s.skipSpace (s.cursor.rest.length + 1)).expireKeys
  return s.closeBlocks fun n => s.cursor.column < n

@[simp] theorem cursor_closeBlocks (above : Nat → Bool) (s : Scanner) :
    (s.closeBlocks above).cursor = s.cursor := by
  rw [closeBlocks]
  split <;> rfl

@[simp] theorem keys_closeBlocks (above : Nat → Bool) (s : Scanner) :
    (s.closeBlocks above).keys = s.keys := by
  rw [closeBlocks]
  split <;> rfl

/-- The reading comes to the next token unless a key that has to be one is too far back. -/
theorem ahead_eq_some_iff {a : Scanner} : s.ahead = some a ↔
    (s.skipSpace (s.cursor.rest.length + 1)).MayExpire ∧
      let b := (s.skipSpace (s.cursor.rest.length + 1)).forgetKeys
      (b.closeBlocks fun n => b.cursor.column < n) = a := by
  constructor
  · intro h
    obtain ⟨b, hb, h⟩ := Option.bind_eq_some_iff.mp h
    obtain ⟨hexpire, rfl⟩ := expireKeys_eq_some_iff.mp hb
    exact ⟨hexpire, Option.some.inj h⟩
  · rintro ⟨hexpire, rfl⟩
    have hb := expireKeys_eq_some_iff.mpr ⟨hexpire, rfl⟩
    rw [ahead, hb]
    rfl

/-- One round of a reading: to the next token, and over it. -/
theorem run_succ (fuel : Nat) (s : Scanner) :
    run (fuel + 1) s = s.ahead.bind fun a => a.next.bind fun b =>
      if a.cursor.rest.isEmpty then some b.tokens.reverse else run fuel b := by
  rw [run, ahead]
  cases (s.skipSpace (s.cursor.rest.length + 1)).expireKeys with
  | none => rfl
  | some b => simp

/-- At the end of a text the one token left is that of the end. -/
theorem next_nil (hs : s.cursor.rest = []) :
    s.next = s.closeAllBlocks.dropKey.map fun t =>
      { t with keyAllowed := false }.push .streamEnd := by
  simp only [next, hs]
  cases s.closeAllBlocks.dropKey <;> rfl

@[simp] theorem keys_closeAllBlocks (s : Scanner) : s.closeAllBlocks.keys = s.keys :=
  keys_closeBlocks _ s

/-- Where the text ends, its tokens do, if no key is missing. -/
theorem run_end {fuel : Nat} {tokens : List Token}
    (hs : (s.skipSpace (s.cursor.rest.length + 1)).cursor.rest = []) :
    run (fuel + 1) s = some tokens ↔
      (s.skipSpace (s.cursor.rest.length + 1)).MayEnd ∧
        (s.skipSpace (s.cursor.rest.length + 1)).ending = tokens := by
  rw [run_succ, mayEnd_iff]
  generalize hb : s.skipSpace (s.cursor.rest.length + 1) = b at hs ⊢
  have hending : b.forgetKeys.ending = b.ending :=
    (ending_eq_iff (s := b) (t := b.forgetKeys) rfl (by simp [forgetKeys])).mpr rfl
  have hnext (above : Nat → Bool) : (b.forgetKeys.closeBlocks above).next =
      b.forgetKeys.closeAllBlocks.dropKey.map
        fun t => { t with keyAllowed := false }.push .streamEnd := by
    rw [next_nil (by rw [cursor_closeBlocks]; exact hs), closeAllBlocks_closeBlocks]
  have hdone (above : Nat → Bool) :
      (b.forgetKeys.closeBlocks above).cursor.rest.isEmpty = true := by
    rw [cursor_closeBlocks]
    exact List.isEmpty_iff.mpr hs
  constructor
  · intro h
    obtain ⟨a, ha, h⟩ := Option.bind_eq_some_iff.mp h
    obtain ⟨hexpire, rfl⟩ := ahead_eq_some_iff.mp ha
    rw [hb] at hexpire h
    obtain ⟨c, hc, h⟩ := Option.bind_eq_some_iff.mp h
    rw [hnext] at hc
    obtain ⟨d, hd, rfl⟩ := Option.map_eq_some_iff.mp hc
    obtain ⟨hkeys, -, -, htokens, -⟩ := dropKey_spec hd
    rw [keys_closeAllBlocks] at hkeys
    refine ⟨⟨hexpire, hkeys⟩, ?_⟩
    rw [if_pos (hdone _)] at h
    cases h
    rw [← hending, ending, ← htokens]
    rfl
  · rintro ⟨⟨hexpire, hkeys⟩, rfl⟩
    have ha : s.ahead = some _ := ahead_eq_some_iff.mpr ⟨hb ▸ hexpire, rfl⟩
    obtain ⟨d, hd⟩ : ∃ d, b.forgetKeys.closeAllBlocks.dropKey = some d :=
      exists_dropKey (by rwa [keys_closeAllBlocks])
    obtain ⟨-, -, -, htokens, -⟩ := dropKey_spec hd
    rw [ha, hb, Option.bind_some, hnext, hd, Option.map_some, Option.bind_some, if_pos (hdone _),
      ← hending, ending, ← htokens]
    rfl

end Scanner

/-! ## White space -/

/-- The place behind a byte order mark at the beginning of a text. -/
def Cursor.unmark (c : Cursor) : Cursor :=
  if c.index == 0 && c.rest.head? == some '\uFEFF' then c.skip 1 else c

/-- Whether a byte order mark at a place is one in the framed text too. -/
def Frame.KeepsMark (f : Frame) (c : Cursor) : Prop :=
  c.index = 0 → f.index = 0 ∨ c.rest.head? ≠ some '\uFEFF'

/-- A byte order mark is read from what is ahead. -/
theorem Cursor.before_unmark (c : Cursor) : c.Before c.unmark := by
  rw [unmark]
  split
  · next h =>
      refine before_skip ?_
      cases hc : c.rest <;> simp_all
  · exact .refl c

/-- A byte order mark is left out in both texts, or in neither. -/
theorem Cursor.unmark_framed {c : Cursor} (h : f.KeepsMark c) :
    (c.framed f).unmark = c.unmark.framed f := by
  have hhead : ((c.framed f).rest.head? == some '\uFEFF') = (c.rest.head? == some '\uFEFF') :=
    head_beq_framed rfl c.rest
  have hindex : (c.framed f).index = c.index + f.index := rfl
  rw [unmark, unmark, hhead, hindex]
  cases hmark : c.rest.head? == some '\uFEFF' with
  | false => simp
  | true =>
      by_cases hzero : c.index = 0
      · have hf : f.index = 0 := (h hzero).resolve_right (not_not_intro (beq_iff_eq.mp hmark))
        have hlength : 1 ≤ c.rest.length := by cases hc : c.rest <;> simp_all
        rw [skip_framed hlength]
        simp [hzero, hf]
      · simp [hzero]

namespace Scanner

/-- Whether a character is left behind before a token. -/
def isSkipped (s : Scanner) (x : Char) : Bool :=
  x == ' ' || (x == '\t' && (s.inFlow || !s.keyAllowed))

/-- The place behind the white space of a line, and a comment if there is one. -/
def lineRest (s : Scanner) : Cursor := s.cursor.unmark.skipWithComment s.isSkipped

variable {s t : Scanner} {fuel fuel' : Nat}

/-- Lines without content are left behind one by one. -/
theorem skipSpace_succ (fuel : Nat) (s : Scanner) :
    s.skipSpace (fuel + 1) =
      if s.lineRest.rest.head?.any isBreak then
        skipSpace fuel
          { s with cursor := s.lineRest.skipBreak, keyAllowed := s.keyAllowed || !s.inFlow }
      else { s with cursor := s.lineRest } :=
  rfl

theorem before_lineRest (s : Scanner) : s.cursor.Before s.lineRest :=
  s.cursor.before_unmark.trans (Cursor.before_skipWithComment _ _)

/-- Leaving white space behind changes nothing but the place, and whether a key may begin there. -/
theorem skipSpace_spec (fuel : Nat) (s : Scanner) :
    s.cursor.Before (s.skipSpace fuel).cursor ∧ (s.skipSpace fuel).indents = s.indents ∧
      (s.skipSpace fuel).keys = s.keys ∧ (s.skipSpace fuel).tokens = s.tokens := by
  induction fuel generalizing s with
  | zero => exact ⟨.refl _, rfl, rfl, rfl⟩
  | succ fuel ih =>
      rw [skipSpace_succ]
      split
      · obtain ⟨hbefore, hrest⟩ :=
          ih { s with cursor := s.lineRest.skipBreak, keyAllowed := s.keyAllowed || !s.inFlow }
        exact ⟨s.before_lineRest.trans ((Cursor.blank_takeBreak _).before.trans hbefore), hrest⟩
      · exact ⟨s.before_lineRest, rfl, rfl, rfl⟩

end Scanner

/-- The reading of the framed text follows that of the text itself. -/
structure Frame.Follows (f : Frame) (s t : Scanner) : Prop where
  cursor : f.Meets s.cursor t.cursor
  indents : t.indents = s.indents
  keys : t.keys = s.keys.map (Option.map (SimpleKey.framed f))
  tokens : t.tokens = s.tokens
  keyAllowed : s.cursor.rest ≠ [] → t.keyAllowed = s.keyAllowed

theorem Frame.follows_framed (f : Frame) (s : Scanner) : f.Follows s (s.framed f) :=
  ⟨.inl rfl, rfl, rfl, rfl, fun _ => rfl⟩

/-- Where the text goes on, the reading that follows is the framed one. -/
theorem Frame.Follows.eq_framed {s t : Scanner} (h : f.Follows s t) (hne : s.cursor.rest ≠ []) :
    t = s.framed f := by
  obtain ⟨hcursor, hindents, hkeys, htokens, hallowed⟩ := h
  obtain ⟨cursor, indents, keyAllowed, keys, tokens⟩ := t
  obtain rfl : cursor = _ := hcursor.eq_framed hne
  obtain rfl : keyAllowed = _ := hallowed hne
  subst hindents hkeys htokens
  rfl

namespace Scanner

variable {s t : Scanner} {fuel fuel' : Nat}

theorem lineRest_of_nil (hs : s.cursor.rest = []) : s.lineRest = s.cursor := by
  obtain ⟨⟨rest, index, line, column⟩, indents, keyAllowed, keys, tokens⟩ := s
  obtain rfl : rest = [] := hs
  simp [lineRest, Cursor.unmark, Cursor.skipWithComment, Cursor.skipWhile, Cursor.skip]

theorem skipSpace_of_nil (hs : s.cursor.rest = []) : s.skipSpace (fuel + 1) = s := by
  rw [skipSpace_succ, lineRest_of_nil hs]
  simp [hs]

/-- In both texts the same is left behind in a line, up to where the text ends. -/
theorem lineRest_framed (hmark : f.KeepsMark s.cursor) :
    (s.framed f).lineRest = (s.cursor.unmark.framed f).skipWithComment s.isSkipped := by
  have hskipped : (s.framed f).isSkipped = s.isSkipped := by
    funext x
    rw [isSkipped, isSkipped, inFlow_framed]
    rfl
  rw [lineRest, hskipped]
  exact congrArg (Cursor.skipWithComment · s.isSkipped) (Cursor.unmark_framed hmark)

/-- White space behind a text does not lead on from the text's end. -/
theorem follows_skipSpace_of_nil (h : f.Follows s t) (hs : s.cursor.rest = []) :
    f.Follows s (t.skipSpace fuel) := by
  obtain ⟨hbefore, hindents, hkeys, htokens⟩ := skipSpace_spec fuel t
  have hgap : ∀ x ∈ t.cursor.rest, isGap x = true := fun x hx =>
    f.isGap_of_mem x ((h.cursor.blank.suffix_after hs).mem hx)
  exact ⟨.inr ⟨hs, h.cursor.blank.trans (hbefore.blank hgap)⟩, hindents.trans h.indents,
    hkeys.trans h.keys, htokens.trans h.tokens, fun hne => absurd hs hne⟩

/-- After a line break a text is not at its beginning. -/
theorem keepsMark_of_before {c d : Cursor} (h : c.Before d)
    (hlt : d.rest.length < c.rest.length) : f.KeepsMark d := by
  obtain ⟨read, hrest, hindex⟩ := h.rest
  intro hzero
  simp only [hrest, List.length_append] at hlt
  omega

/-- **White space between tokens**: leaving it behind, a reading that follows goes on following. -/
theorem follows_skipSpace (h : f.Follows s t) (htight : Tight s.cursor.rest)
    (hmark : f.KeepsMark s.cursor) (hfuel : s.cursor.rest.length < fuel)
    (hfuel' : s.cursor.rest.length < fuel') :
    f.Follows (s.skipSpace fuel) (t.skipSpace fuel') := by
  induction fuel generalizing s t fuel' with
  | zero => omega
  | succ fuel ih =>
      obtain ⟨k, rfl⟩ : ∃ k, fuel' = k + 1 := ⟨fuel' - 1, by omega⟩
      by_cases hs : s.cursor.rest = []
      · rw [skipSpace_of_nil hs]
        exact follows_skipSpace_of_nil h hs
      · obtain rfl := h.eq_framed hs
        have hbefore := s.before_lineRest
        have htight := htight.suffix hbefore.suffix
        by_cases hline : s.lineRest.rest = []
        · -- the text ends in this line
          have hblank : (s.lineRest.framed f).Blank (s.framed f).lineRest := by
            rw [lineRest_framed hmark]
            exact Cursor.blank_skipWithComment_framed _
          have hend : s.skipSpace (fuel + 1) = { s with cursor := s.lineRest } := by
            rw [skipSpace_succ, if_neg (by simp [hline])]
          rw [hend, skipSpace_succ]
          split
          · refine follows_skipSpace_of_nil ⟨.inr ⟨hline, ?_⟩, rfl, rfl, rfl, ?_⟩ hline
            · exact hblank.trans (Cursor.blank_takeBreak _)
            · exact fun hne => absurd hline hne
          · exact ⟨.inr ⟨hline, hblank⟩, rfl, rfl, rfl, fun _ => rfl⟩
        · have hframed : (s.framed f).lineRest = s.lineRest.framed f := by
            rw [lineRest_framed hmark]
            exact Cursor.skipWithComment_framed hline
          obtain ⟨x, r, hx⟩ := List.exists_cons_of_ne_nil hline
          rw [skipSpace_succ, skipSpace_succ, hframed, Cursor.rest_framed f hx, hx, List.head?_cons,
            List.head?_cons, Option.any_some]
          split
          · next hbreak =>
              have hblank := s.lineRest.blank_takeBreak
              have hlt : s.lineRest.skipBreak.rest.length < s.cursor.rest.length :=
                Nat.lt_of_lt_of_le (Cursor.length_takeBreak_lt hx hbreak) hbefore.length_le
              refine ih ⟨.inl ?_, rfl, rfl, rfl, fun _ => ?_⟩ (htight.suffix hblank.before.suffix)
                (keepsMark_of_before (hbefore.trans hblank.before) hlt)
                (Nat.lt_of_lt_of_le hlt (Nat.le_of_lt_succ hfuel))
                (Nat.lt_of_lt_of_le hlt (Nat.le_of_lt_succ hfuel'))
              · exact congrArg Prod.snd (Cursor.takeBreak_framed htight hline)
              · rw [inFlow_framed]
                rfl
          · exact ⟨.inl rfl, rfl, rfl, rfl, fun _ => rfl⟩

end Scanner

end Broadsheet.Yaml

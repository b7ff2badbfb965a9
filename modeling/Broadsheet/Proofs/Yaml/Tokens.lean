import Broadsheet.Proofs.Yaml.Scanning

/-!
# Broadsheet.Proofs.Yaml.Tokens

Reading one token of a framed text.  A reading keeps to another one
(`Frame.Keeps`) if what it comes to is followed by what the other one comes to;
each kind of token does so, block scalars apart (`keeps_next`), for these may
take in the white space behind the text (`readBlockScalar_of_framed`).  Every
token takes a character at least (`advances_next`).
-/

namespace Broadsheet.Yaml

variable {f : Frame}

namespace Scanner

variable {s t : Scanner}

/-! ## Marks -/

/-- Two steps of a reading: if the second one keeps to a frame, both do. -/
theorem map_framed_bind {x : Option Scanner} {next next' : Scanner → Option Scanner}
    (h : ∀ d, x = some d → next' (d.framed f) = (next d).map (framed f)) :
    (x.map (framed f)).bind next' = (x.bind next).map (framed f) := by
  cases x with
  | none => rfl
  | some d => exact h d rfl

/-- A mark of some characters, with what else it changes. -/
theorem mark_framed {n : Nat} (h : n ≤ s.cursor.rest.length) (token : Token) :
    ((s.framed f).skip n).push token = ((s.skip n).push token).framed f := by
  rw [skip_framed h, push_framed]

/-- Dropping a key reads nothing. -/
theorem cursor_dropKey (h : s.dropKey = some t) : t.cursor = s.cursor := (dropKey_spec h).2.1

theorem cursor_dropKey_closeAllBlocks (h : s.closeAllBlocks.dropKey = some t) :
    t.cursor = s.cursor := by
  rw [cursor_dropKey h, closeAllBlocks, cursor_closeBlocks]

/-- Marks of documents are the same in the framed text. -/
theorem readMark_framed (h : 3 ≤ s.cursor.rest.length) (token : Token) :
    (s.framed f).readMark token = (s.readMark token).map (framed f) := by
  rw [readMark, closeAllBlocks_framed, dropKey_framed]
  refine map_framed_bind fun d hd => congrArg some ?_
  have hcursor : d.cursor = s.cursor := cursor_dropKey_closeAllBlocks hd
  exact mark_framed (s := { d with keyAllowed := false }) (hcursor ▸ h) token

/-- Noting a key reads nothing. -/
theorem cursor_saveKey (h : s.saveKey = some t) : t.cursor = s.cursor := by
  rw [saveKey] at h
  split at h
  · obtain ⟨d, hd, h⟩ := Option.bind_eq_some_iff.mp h
    cases h
    exact (cursor_dropKey hd :)
  · cases h
    rfl

variable (hs : 1 ≤ s.cursor.rest.length)

include hs

/-- The beginning of a flow collection is the same in the framed text. -/
theorem openFlow_framed (token : Token) :
    (s.framed f).openFlow token = (s.openFlow token).map (framed f) := by
  rw [openFlow, saveKey_framed]
  refine map_framed_bind fun d hd => congrArg some ?_
  exact mark_framed (s := { d with keys := none :: d.keys, keyAllowed := true })
    (cursor_saveKey hd ▸ hs) token

/-- The end of a flow collection is the same in the framed text. -/
theorem closeFlow_framed (token : Token) :
    (s.framed f).closeFlow token = (s.closeFlow token).map (framed f) := by
  rw [closeFlow, dropKey_framed]
  refine map_framed_bind fun d hd => congrArg some ?_
  have hkeys : (if (d.framed f).inFlow then (d.framed f).keys.tail else (d.framed f).keys) =
      (if d.inFlow then d.keys.tail else d.keys).map (Option.map (SimpleKey.framed f)) := by
    rw [inFlow_framed]
    split
    · exact List.map_tail.symm
    · rfl
  rw [hkeys]
  exact mark_framed
    (s := { d with keys := if d.inFlow then d.keys.tail else d.keys, keyAllowed := false })
    (cursor_dropKey hd ▸ hs) token

theorem readComma_framed : (s.framed f).readComma = s.readComma.map (framed f) := by
  rw [readComma, dropKey_framed]
  refine map_framed_bind fun d hd => congrArg some ?_
  exact mark_framed (s := { d with keyAllowed := true }) (cursor_dropKey hd ▸ hs) _

omit hs in
@[simp] theorem cursor_openBlock (s : Scanner) (column position : Nat) (token : Token) :
    (s.openBlock column position token).cursor = s.cursor := by
  rw [openBlock]
  split <;> rfl

/-- The mark of an entry, and the block that it may begin. -/
theorem readDash_framed : (s.framed f).readDash = s.readDash.map (framed f) := by
  have hallowed : (s.framed f).keyAllowed = s.keyAllowed := rfl
  simp only [readDash, guard_bind, inFlow_framed, hallowed]
  split
  · have hopen : (s.framed f).openBlock (s.framed f).cursor.column (s.framed f).tokens.length
        .blockSequenceStart =
        (s.openBlock s.cursor.column s.tokens.length .blockSequenceStart).framed f :=
      openBlock_framed ..
    rw [hopen, dropKey_framed]
    refine map_framed_bind fun d hd => congrArg some ?_
    have hcursor : d.cursor = s.cursor := by rw [cursor_dropKey hd, cursor_openBlock]
    exact mark_framed (s := { d with keyAllowed := true }) (hcursor ▸ hs) _
  · rfl

/-- The mark of a key, and the block that it may begin. -/
theorem readQuestion_framed : (s.framed f).readQuestion = s.readQuestion.map (framed f) := by
  have hallowed : (s.framed f).keyAllowed = s.keyAllowed := rfl
  simp only [readQuestion, guard_bind, inFlow_framed, hallowed]
  split
  · have hopen : (s.framed f).openBlock (s.framed f).cursor.column (s.framed f).tokens.length
        .blockMappingStart =
        (s.openBlock s.cursor.column s.tokens.length .blockMappingStart).framed f :=
      openBlock_framed ..
    rw [hopen, dropKey_framed]
    refine map_framed_bind fun d hd => congrArg some ?_
    have hcursor : d.cursor = s.cursor := by rw [cursor_dropKey hd, cursor_openBlock]
    rw [inFlow_framed]
    exact mark_framed (s := { d with keyAllowed := !d.inFlow }) (hcursor ▸ hs) _
  · rfl

omit hs in
/-- A value behind a key without a mark. -/
theorem readColon_key {k : SimpleKey} {ks : List (Option SimpleKey)}
    (hkeys : s.keys = some k :: ks) :
    s.readColon =
      let d := (s.insertAt k.position .key).openBlock k.column k.position .blockMappingStart
      some (({ d with keys := none :: ks, keyAllowed := false }.skip 1).push .value) := by
  simp only [readColon, hkeys]

omit hs in
/-- A value without such a key. -/
theorem readColon_other (hkeys : ∀ k ks, s.keys ≠ some k :: ks) :
    s.readColon =
      if s.inFlow || s.keyAllowed then
        let d := s.openBlock s.cursor.column s.tokens.length .blockMappingStart
        some (({ d with keyAllowed := !d.inFlow }.skip 1).push .value)
      else none := by
  rw [readColon]
  split
  · next k ks h => exact absurd h (hkeys k ks)
  · exact guard_bind _ _

/-- The mark of a value: the block begins where the key did, in both texts. -/
theorem readColon_framed : (s.framed f).readColon = s.readColon.map (framed f) := by
  by_cases hkeys : ∃ k ks, s.keys = some k :: ks
  · obtain ⟨k, ks, hkeys⟩ := hkeys
    have hkeys' : (s.framed f).keys =
        some (k.framed f) :: ks.map (Option.map (SimpleKey.framed f)) := by
      simp [framed, hkeys]
    rw [readColon_key hkeys, readColon_key hkeys']
    refine congrArg some ?_
    have hopen : ((s.framed f).insertAt (k.framed f).position .key).openBlock (k.framed f).column
        (k.framed f).position .blockMappingStart =
        ((s.insertAt k.position .key).openBlock k.column k.position .blockMappingStart).framed f :=
      openBlock_framed (s.insertAt k.position .key) ..
    rw [hopen]
    refine mark_framed (s := { (s.insertAt k.position .key).openBlock k.column k.position
      .blockMappingStart with keys := none :: ks, keyAllowed := false }) ?_ _
    rw [cursor_openBlock]
    exact hs
  · have hkeys' : ∀ k ks, (s.framed f).keys ≠ some k :: ks := by
      intro k ks h
      obtain ⟨_ | k', ks', hkey, hk, -⟩ := List.map_eq_cons_iff.mp h
      · cases hk
      · exact hkeys ⟨k', ks', hkey⟩
    have hallowed : (s.framed f).keyAllowed = s.keyAllowed := rfl
    rw [readColon_other hkeys', readColon_other fun k ks h => hkeys ⟨k, ks, h⟩, inFlow_framed,
      hallowed]
    split
    · refine congrArg some ?_
      have hopen : (s.framed f).openBlock (s.framed f).cursor.column (s.framed f).tokens.length
          .blockMappingStart =
          (s.openBlock s.cursor.column s.tokens.length .blockMappingStart).framed f :=
        openBlock_framed ..
      simp only [hopen, inFlow_framed]
      generalize hd : s.openBlock s.cursor.column s.tokens.length .blockMappingStart = d
      have hcursor : d.cursor = s.cursor := hd ▸ cursor_openBlock ..
      exact mark_framed (s := { d with keyAllowed := !d.inFlow }) (hcursor ▸ hs) .value
    · rfl

omit hs

/-! ## Scalars -/

/-- A token that may be a key, if its own reading keeps to the frame. -/
theorem readKeyToken_framed {read : Scanner → Option (Token × Cursor)}
    (hread : ∀ d, d.cursor = s.cursor → read (d.framed f) = f.move (read d)) :
    (s.framed f).readKeyToken read = (s.readKeyToken read).map (framed f) := by
  rw [readKeyToken, saveKey_framed]
  refine map_framed_bind fun d hd => ?_
  rw [hread d (cursor_saveKey hd)]
  cases read d <;> rfl

end Scanner

/-- Where the reading of the framed text goes on, that of the text itself does. -/
def Frame.Keeps (f : Frame) (x y : Option Scanner) : Prop :=
  ∀ t, y = some t → ∃ s, x = some s ∧ f.Follows s t

namespace Frame.Keeps

variable {x x' y y' : Option Scanner}

/-- What is the same in the framed text is kept. -/
theorem of_map (h : y = x.map (Scanner.framed f)) : f.Keeps x y := by
  rintro t rfl
  obtain ⟨s, hs, rfl⟩ := Option.map_eq_some_iff.mp h.symm
  exact ⟨s, hs, f.follows_framed s⟩

theorem none (x : Option Scanner) : f.Keeps x none := nofun

theorem ite {p : Prop} [Decidable p] (h : p → f.Keeps x y) (h' : ¬ p → f.Keeps x' y') :
    f.Keeps (if p then x else x') (if p then y else y') := by
  split
  · next hp => exact h hp
  · next hp => exact h' hp

end Frame.Keeps

namespace Scanner

variable {s t : Scanner}

/-- Reads a directive. -/
def directive (s : Scanner) : Option Scanner := do
  let s ← s.closeAllBlocks.dropKey
  let (token, c) ← readDirective (s.cursor.skip 1)
  return { s with cursor := c, keyAllowed := false }.push token

/-- A directive may end in the white space behind a text. -/
theorem keeps_directive (htight : Tight s.cursor.rest) (hs : 1 ≤ s.cursor.rest.length) :
    f.Keeps s.directive (s.framed f).directive := by
  intro t ht
  rw [directive, closeAllBlocks_framed, dropKey_framed] at ht
  obtain ⟨_, hmap, ht⟩ := Option.bind_eq_some_iff.mp ht
  obtain ⟨d, hd, rfl⟩ := Option.map_eq_some_iff.mp hmap
  obtain ⟨⟨token, c⟩, hread, ht⟩ := Option.bind_eq_some_iff.mp ht
  cases ht
  have hcursor : d.cursor = s.cursor := cursor_dropKey_closeAllBlocks hd
  have hskip : (d.framed f).cursor.skip 1 = (d.cursor.skip 1).framed f :=
    Cursor.skip_framed (hcursor ▸ hs)
  rw [hskip] at hread
  obtain ⟨c', hread', hmeets⟩ := exists_readDirective_of_framed
    (hcursor ▸ htight.suffix (Cursor.before_skip hs).suffix) hread
  refine ⟨{ d with cursor := c', keyAllowed := false }.push token, ?_,
    ⟨hmeets, rfl, rfl, rfl, fun _ => rfl⟩⟩
  rw [directive, hd]
  simp only [Option.bind_eq_bind, Option.bind_some, hread']
  rfl

/-- A plain scalar may end before white space behind a text. -/
theorem keeps_readPlainScalar (htight : Tight s.cursor.rest) (hs : s.cursor.rest ≠ []) :
    f.Keeps s.readPlainScalar (s.framed f).readPlainScalar := by
  intro t ht
  rw [readPlainScalar, saveKey_framed] at ht
  obtain ⟨_, hmap, ht⟩ := Option.bind_eq_some_iff.mp ht
  obtain ⟨d, hd, rfl⟩ := Option.map_eq_some_iff.mp hmap
  obtain ⟨p, hread, ht⟩ := Option.bind_eq_some_iff.mp ht
  cases ht
  have hcursor := cursor_saveKey hd
  rw [inFlow_framed, contentColumn_framed] at hread
  obtain ⟨q, hq, htext, hmeets, hbroken⟩ :=
    (readsPlain_of_readPlain hread).of_framed (hcursor ▸ htight) (hcursor ▸ hs)
  refine ⟨{ d with cursor := q.cursor, keyAllowed := q.broken }.push
    (.scalar (String.ofList q.text) true), ?_, ⟨hmeets, rfl, rfl, ?_, hbroken⟩⟩
  · rw [readPlainScalar, hd]
    simp only [Option.bind_eq_bind, Option.bind_some, hq.readPlain_eq (Nat.lt_succ_self _)]
    rfl
  · simp only [push, htext]
    rfl

/-- A block scalar, but for white space at the end of a text. -/
theorem readBlockScalar_of_framed {literal : Bool} (htight : Tight s.cursor.rest)
    (hs : 1 ≤ s.cursor.rest.length) (ht : (s.framed f).readBlockScalar literal = some t) :
    ∃ d text more tokens, s.readBlockScalar literal = some d ∧
      d.tokens = .scalar (String.ofList text) false :: tokens ∧
      t.tokens = .scalar (String.ofList (text ++ more)) false :: tokens ∧
      f.Follows d { t with tokens := d.tokens } ∧ (d.cursor.rest = [] → Tight text) ∧
      (∀ x ∈ more, isGap x = true) ∧ (more = [] ∨ t.cursor.rest = []) := by
  rw [readBlockScalar, dropKey_framed] at ht
  obtain ⟨_, hmap, ht⟩ := Option.bind_eq_some_iff.mp ht
  obtain ⟨d, hd, rfl⟩ := Option.map_eq_some_iff.mp hmap
  obtain ⟨⟨text, e⟩, hread, ht⟩ := Option.bind_eq_some_iff.mp ht
  cases ht
  have hcursor := cursor_dropKey hd
  have hskip : (d.framed f).cursor.skip 1 = (d.cursor.skip 1).framed f :=
    Cursor.skip_framed (hcursor ▸ hs)
  rw [hskip, contentColumn_framed, readBlock_eq_some_iff] at hread
  have htight : Tight (d.cursor.skip 1).rest :=
    hcursor ▸ htight.suffix (Cursor.before_skip hs).suffix
  obtain ⟨text, e', more, hread', hmeets, rfl, hgap, hend⟩ := hread.of_framed htight
  refine ⟨{ d with cursor := e', keyAllowed := true }.push (.scalar (String.ofList text) false),
    text, more, d.tokens, ?_, rfl, rfl, ⟨hmeets, rfl, rfl, rfl, fun _ => rfl⟩,
    hread'.tight htight, hgap, hend⟩
  rw [readBlockScalar, hd]
  simp only [Option.bind_eq_bind, Option.bind_some, readBlock_eq_some_iff.mpr hread']
  rfl

/-- A quoted scalar ends at its quote. -/
theorem keeps_readQuotedScalar (single : Bool) (htight : Tight s.cursor.rest)
    (hs : 1 ≤ s.cursor.rest.length) :
    f.Keeps (s.readQuotedScalar single) ((s.framed f).readQuotedScalar single) := by
  refine .of_map (readKeyToken_framed fun d hd => ?_)
  have hskip : (d.framed f).cursor.skip 1 = (d.cursor.skip 1).framed f :=
    Cursor.skip_framed (hd ▸ hs)
  have htight' : Tight (d.cursor.skip 1).rest :=
    hd ▸ htight.suffix (Cursor.before_skip hs).suffix
  have hquoted : readQuoted single (((d.cursor.skip 1).framed f).rest.length + 1)
      ((d.cursor.skip 1).framed f) =
      f.move (readQuoted single ((d.cursor.skip 1).rest.length + 1) (d.cursor.skip 1)) :=
    readQuoted_framed htight' (Nat.lt_succ_self _)
      (by simp only [Cursor.framed, List.length_append]; omega)
  simp only [hskip, hquoted]
  cases readQuoted single ((d.cursor.skip 1).rest.length + 1) (d.cursor.skip 1) <;> rfl

/-- An anchor or an alias ends before white space. -/
theorem keeps_readName {token : String → Token} (hs : 1 ≤ s.cursor.rest.length) :
    f.Keeps
      (s.readKeyToken fun s => (readName (s.cursor.skip 1)).map fun (n, c) => (token n, c))
      ((s.framed f).readKeyToken fun s =>
        (readName (s.cursor.skip 1)).map fun (n, c) => (token n, c)) := by
  refine .of_map (readKeyToken_framed fun d hd => ?_)
  have hskip : (d.framed f).cursor.skip 1 = (d.cursor.skip 1).framed f :=
    Cursor.skip_framed (hd ▸ hs)
  rw [hskip, readName_framed]
  cases readName (d.cursor.skip 1) <;> rfl

/-- A tag ends before white space. -/
theorem keeps_readTag : f.Keeps (s.readKeyToken fun s => readTag s.inFlow s.cursor)
    ((s.framed f).readKeyToken fun s => readTag s.inFlow s.cursor) := by
  refine .of_map (readKeyToken_framed fun d _ => ?_)
  rw [inFlow_framed]
  exact readTag_framed d.inFlow d.cursor

/-! ## Tokens -/

/-- Whether a block scalar begins here. -/
def beginsBlock (s : Scanner) : Bool :=
  !s.inFlow && s.cursor.rest.head?.any fun x => x == '|' || x == '>'

/-- The token that a character begins, as a list of choices. -/
theorem next_cons {x : Char} {r : List Char} (hs : s.cursor.rest = x :: r) :
    s.next =
      if s.cursor.column == 0 && x == '%' then s.directive
      else if s.cursor.atMark '-' then s.readMark .documentStart
      else if s.cursor.atMark '.' then s.readMark .documentEnd
      else if x == '[' then s.openFlow .flowSequenceStart
      else if x == '{' then s.openFlow .flowMappingStart
      else if x == ']' then s.closeFlow .flowSequenceEnd
      else if x == '}' then s.closeFlow .flowMappingEnd
      else if x == ',' then s.readComma
      else if x == '-' && blankAhead r then s.readDash
      else if x == '?' && (s.inFlow || blankAhead r) then s.readQuestion
      else if x == ':' && (s.inFlow || blankAhead r) then s.readColon
      else if x == '*' then
        s.readKeyToken fun s => (readName (s.cursor.skip 1)).map fun (n, c) => (.alias n, c)
      else if x == '&' then
        s.readKeyToken fun s => (readName (s.cursor.skip 1)).map fun (n, c) => (.anchor n, c)
      else if x == '!' then s.readKeyToken fun s => readTag s.inFlow s.cursor
      else if x == '|' && !s.inFlow then s.readBlockScalar true
      else if x == '>' && !s.inFlow then s.readBlockScalar false
      else if x == '\'' then s.readQuotedScalar true
      else if x == '"' then s.readQuotedScalar false
      else if beginsPlain s.inFlow x r then s.readPlainScalar
      else none := by
  rw [next]
  split
  · next hnil => simp [hs] at hnil
  · next hcons =>
      obtain ⟨rfl, rfl⟩ := List.cons_eq_cons.mp (hs.symm.trans hcons)
      rfl

/-- A plain scalar begins in the framed text where it does in the text, but for a dash at its
end. -/
theorem beginsPlain_framed {flow : Bool} {x : Char} {r : List Char}
    (h : ¬ (x == '-' && blankAhead r) = true) :
    beginsPlain flow x (r ++ f.after) = beginsPlain flow x r := by
  rw [beginsPlain, beginsPlain, blankAhead_framed]
  cases r with
  | cons y r => rfl
  | nil =>
      have hx : (x == '-') = false := by simpa [blankAhead] using h
      simp [hx]

/-- **One token**: each kind of token keeps to the reading of the text, block scalars apart. -/
theorem keeps_next {x : Char} {r : List Char} (htight : Tight s.cursor.rest)
    (hs : s.cursor.rest = x :: r) (hblock : s.beginsBlock = false) :
    f.Keeps s.next (s.framed f).next := by
  have hs' : (s.framed f).cursor.rest = x :: (r ++ f.after) := Cursor.rest_framed f hs
  have hcolumn : (s.framed f).cursor.column = s.cursor.column := rfl
  have hmark {mark : Char} (hmark : isGap mark = false) :
      (s.framed f).cursor.atMark mark = s.cursor.atMark mark := Cursor.atMark_framed hmark
  have hlength : 1 ≤ s.cursor.rest.length := by simp [hs]
  rw [next_cons hs, next_cons hs', hcolumn, hmark rfl, hmark rfl, blankAhead_framed, inFlow_framed]
  have hthree {mark : Char} (h : s.cursor.atMark mark = true) : 3 ≤ s.cursor.rest.length :=
    Cursor.length_of_atMark h
  refine .ite (fun _ => keeps_directive htight hlength) fun _ => ?_
  refine .ite (fun h => .of_map (readMark_framed (hthree h) _)) fun _ => ?_
  refine .ite (fun h => .of_map (readMark_framed (hthree h) _)) fun _ => ?_
  refine .ite (fun _ => .of_map (openFlow_framed hlength _)) fun _ => ?_
  refine .ite (fun _ => .of_map (openFlow_framed hlength _)) fun _ => ?_
  refine .ite (fun _ => .of_map (closeFlow_framed hlength _)) fun _ => ?_
  refine .ite (fun _ => .of_map (closeFlow_framed hlength _)) fun _ => ?_
  refine .ite (fun _ => .of_map (readComma_framed hlength)) fun _ => ?_
  refine .ite (fun _ => .of_map (readDash_framed hlength)) fun hdash => ?_
  refine .ite (fun _ => .of_map (readQuestion_framed hlength)) fun _ => ?_
  refine .ite (fun _ => .of_map (readColon_framed hlength)) fun _ => ?_
  refine .ite (fun _ => keeps_readName hlength) fun _ => ?_
  refine .ite (fun _ => keeps_readName hlength) fun _ => ?_
  refine .ite (fun _ => keeps_readTag) fun _ => ?_
  refine .ite (fun h => ?literal) fun _ => ?_
  case literal => simp_all [beginsBlock]
  refine .ite (fun h => ?folded) fun _ => ?_
  case folded => simp_all [beginsBlock]
  refine .ite (fun _ => keeps_readQuotedScalar true htight hlength) fun _ => ?_
  refine .ite (fun _ => keeps_readQuotedScalar false htight hlength) fun _ => ?_
  rw [beginsPlain_framed hdash]
  exact .ite (fun _ => keeps_readPlainScalar htight (by simp [hs])) fun _ => .none _

/-- A block scalar begins with one of two marks, outside flow collections. -/
theorem exists_of_beginsBlock (hblock : s.beginsBlock = true) :
    s.inFlow = false ∧ ∃ x r, s.cursor.rest = x :: r ∧ (x = '|' ∨ x = '>') := by
  cases hs : s.cursor.rest with
  | nil => simp [beginsBlock, hs] at hblock
  | cons x r => exact ⟨by simp_all [beginsBlock], x, r, rfl, by simp_all [beginsBlock]⟩

/-- There the token is a block scalar of the kind of its mark. -/
theorem next_of_beginsBlock {x : Char} {r : List Char} (hs : s.cursor.rest = x :: r)
    (hflow : s.inFlow = false) (hx : x = '|' ∨ x = '>') :
    s.next = s.readBlockScalar (x == '|') := by
  have hdash : s.cursor.atMark '-' = false := by
    obtain rfl | rfl := hx <;> exact Cursor.atMark_of_ne hs (by decide)
  have hdots : s.cursor.atMark '.' = false := by
    obtain rfl | rfl := hx <;> exact Cursor.atMark_of_ne hs (by decide)
  rw [next_cons hs, hdash, hdots]
  obtain rfl | rfl := hx <;> simp [hflow]

/-- White space is no token. -/
theorem next_of_gap {x : Char} {r : List Char} (hs : s.cursor.rest = x :: r)
    (hx : isGap x = true) : s.next = none := by
  have hne {mark : Char} (hmark : isGap mark = false) : x ≠ mark := by
    rintro rfl
    simp [hx] at hmark
  rw [next_cons hs, Cursor.atMark_of_ne hs (hne rfl), Cursor.atMark_of_ne hs (hne rfl)]
  obtain rfl | rfl | rfl | rfl | rfl | rfl | rfl := gap_cases hx <;>
    simp [beginsPlain, isSpace, isBreak, isIndicator]

/-- What begins a token is no white space. -/
theorem isGap_of_next {x : Char} {r : List Char} (hs : s.cursor.rest = x :: r)
    (h : s.next = some t) : isGap x = false := by
  cases hx : isGap x with
  | false => rfl
  | true => simp [next_of_gap hs hx] at h

/-! ## Progress -/

/-- Where the reading goes on, it does so behind the next character. -/
def Advances (s : Scanner) (x : Option Scanner) : Prop :=
  ∀ t, x = some t → (s.cursor.skip 1).Before t.cursor

namespace Advances

theorem none (s : Scanner) : s.Advances none := nofun

theorem ite {p : Prop} [Decidable p] {x y : Option Scanner} (h : p → s.Advances x)
    (h' : ¬ p → s.Advances y) : s.Advances (if p then x else y) := by
  split
  · next hp => exact h hp
  · next hp => exact h' hp

/-- The next character may be left behind after something else was noted. -/
theorem bind {x : Option Scanner} {next : Scanner → Option Scanner}
    (h : ∀ d, x = some d → s.Advances (next d)) : s.Advances (x.bind next) := by
  intro t ht
  obtain ⟨d, hd, ht⟩ := Option.bind_eq_some_iff.mp ht
  exact h d hd t ht

theorem skip {d : Scanner} {token : Token} (hd : d.cursor = s.cursor) :
    s.Advances (some ((d.skip 1).push token)) := by
  rintro t ⟨⟩
  rw [← hd]
  exact .refl _

end Advances

/-- The percent sign of a directive is left behind. -/
theorem advances_directive : s.Advances s.directive := by
  refine .bind fun d hd => ?_
  intro t ht
  obtain ⟨⟨token, c⟩, hread, ht⟩ := Option.bind_eq_some_iff.mp ht
  cases ht
  rw [← cursor_dropKey_closeAllBlocks hd]
  exact before_readDirective hread

theorem advances_readMark (hs : 3 ≤ s.cursor.rest.length) (token : Token) :
    s.Advances (s.readMark token) := by
  refine .bind fun d hd => ?_
  rintro t ⟨⟩
  rw [← cursor_dropKey_closeAllBlocks hd] at hs ⊢
  exact Cursor.before_skip_of_le (by decide) hs

theorem advances_openFlow (token : Token) : s.Advances (s.openFlow token) :=
  .bind fun _ hd => .skip (cursor_saveKey hd :)

theorem advances_closeFlow (token : Token) : s.Advances (s.closeFlow token) :=
  .bind fun _ hd => .skip (cursor_dropKey hd :)

theorem advances_readComma : s.Advances s.readComma :=
  .bind fun _ hd => .skip (cursor_dropKey hd :)

theorem advances_readDash : s.Advances s.readDash := by
  rw [readDash, guard_bind]
  refine .ite (fun _ => .bind fun d hd => .skip ?_) fun _ => .none s
  exact (cursor_dropKey hd).trans (cursor_openBlock ..)

theorem advances_readQuestion : s.Advances s.readQuestion := by
  rw [readQuestion, guard_bind]
  refine .ite (fun _ => .bind fun d hd => .skip ?_) fun _ => .none s
  exact (cursor_dropKey hd).trans (cursor_openBlock ..)

/-- The mark of a value is left behind, whether a key stands before it or not. -/
theorem advances_readColon : s.Advances s.readColon := by
  by_cases hkeys : ∃ k ks, s.keys = some k :: ks
  · obtain ⟨k, ks, hkeys⟩ := hkeys
    rw [readColon_key hkeys]
    exact .skip (cursor_openBlock ..)
  · rw [readColon_other fun k ks h => hkeys ⟨k, ks, h⟩]
    exact .ite (fun _ => .skip (cursor_openBlock ..)) fun _ => .none s

/-- A token that may be a key is left behind as far as its own reading goes. -/
theorem advances_readKeyToken {read : Scanner → Option (Token × Cursor)}
    (hread : ∀ d token c, d.cursor = s.cursor → read d = some (token, c) →
      (s.cursor.skip 1).Before c) : s.Advances (s.readKeyToken read) := by
  refine .bind fun d hd => ?_
  intro t ht
  obtain ⟨⟨token, c⟩, hc, ht⟩ := Option.bind_eq_some_iff.mp ht
  cases ht
  exact hread d token c (cursor_saveKey hd) hc

theorem advances_readName {token : String → Token} :
    s.Advances (s.readKeyToken fun s =>
      (readName (s.cursor.skip 1)).map fun (n, c) => (token n, c)) := by
  refine advances_readKeyToken fun d _ c hd h => ?_
  obtain ⟨⟨n, c'⟩, hn, hpair⟩ := Option.map_eq_some_iff.mp h
  cases hpair
  exact hd ▸ before_readName hn

theorem advances_readTag : s.Advances (s.readKeyToken fun s => readTag s.inFlow s.cursor) :=
  advances_readKeyToken fun _ _ _ hd h => hd ▸ before_readTag h

theorem advances_readQuotedScalar (single : Bool) : s.Advances (s.readQuotedScalar single) := by
  refine advances_readKeyToken fun d _ c hd h => ?_
  obtain ⟨⟨text, c'⟩, htext, hpair⟩ := Option.bind_eq_some_iff.mp h
  cases hpair
  exact hd ▸ before_readQuoted htext

theorem advances_readBlockScalar (literal : Bool) : s.Advances (s.readBlockScalar literal) := by
  refine .bind fun d hd => ?_
  intro t ht
  obtain ⟨⟨text, c⟩, hread, ht⟩ := Option.bind_eq_some_iff.mp ht
  cases ht
  exact cursor_dropKey hd ▸ (readBlock_eq_some_iff.mp hread).before

/-- A plain scalar takes the character that it begins with. -/
theorem advances_readPlainScalar {x : Char} {r : List Char} (hs : s.cursor.rest = x :: r)
    (hstop : s.cursor.stopsPlain = false) (hx : isGap x = false)
    (hends : ∀ flow, endsPlain flow x r = false) : s.Advances s.readPlainScalar := by
  refine .bind fun d hd => ?_
  intro t ht
  obtain ⟨p, hp, ht⟩ := Option.bind_eq_some_iff.mp ht
  cases ht
  have hcursor := cursor_saveKey hd
  rw [← hcursor] at hs hstop ⊢
  exact (readsPlain_of_readPlain hp).before_of_cons hs hstop hx (hends _)

/-- **Progress**: every token takes the character that it begins with. -/
theorem advances_next {x : Char} {r : List Char} (hs : s.cursor.rest = x :: r)
    (hx : isGap x = false) : s.Advances s.next := by
  rw [next_cons hs]
  refine .ite (fun _ => advances_directive) fun _ => ?_
  refine .ite (fun h => advances_readMark (Cursor.length_of_atMark h) _) fun hdash => ?_
  refine .ite (fun h => advances_readMark (Cursor.length_of_atMark h) _) fun hdots => ?_
  refine .ite (fun _ => advances_openFlow _) fun _ => ?_
  refine .ite (fun _ => advances_openFlow _) fun _ => ?_
  refine .ite (fun _ => advances_closeFlow _) fun _ => ?_
  refine .ite (fun _ => advances_closeFlow _) fun _ => ?_
  refine .ite (fun _ => advances_readComma) fun _ => ?_
  refine .ite (fun _ => advances_readDash) fun _ => ?_
  refine .ite (fun _ => advances_readQuestion) fun _ => ?_
  refine .ite (fun _ => advances_readColon) fun _ => ?_
  refine .ite (fun _ => advances_readName) fun _ => ?_
  refine .ite (fun _ => advances_readName) fun _ => ?_
  refine .ite (fun _ => advances_readTag) fun _ => ?_
  refine .ite (fun _ => advances_readBlockScalar _) fun _ => ?_
  refine .ite (fun _ => advances_readBlockScalar _) fun _ => ?_
  refine .ite (fun _ => advances_readQuotedScalar _) fun _ => ?_
  refine .ite (fun _ => advances_readQuotedScalar _) fun _ => ?_
  refine .ite (fun hplain => ?_) fun _ => .none s
  refine advances_readPlainScalar hs ?_ hx ?_
  · have hcomment : x ≠ '#' := by
      rintro rfl
      simp [beginsPlain, isIndicator] at hplain
    simp_all [Cursor.stopsPlain, Cursor.atDocumentMark]
  · intro flow
    simp_all [endsPlain]

/-- A token is read from what is ahead, the end of the text included. -/
theorem before_of_next (h : s.next = some t) : s.cursor.Before t.cursor := by
  cases hs : s.cursor.rest with
  | nil =>
      rw [next_nil hs] at h
      obtain ⟨d, hd, rfl⟩ := Option.map_eq_some_iff.mp h
      exact cursor_dropKey_closeAllBlocks hd ▸ .refl d.cursor
  | cons x r =>
      have hskip : s.cursor.Before (s.cursor.skip 1) := Cursor.before_skip (by simp [hs])
      exact hskip.trans (advances_next hs (isGap_of_next hs h) t h)

end Scanner

end Broadsheet.Yaml

import Broadsheet.Proofs.Yaml.Scalars

/-!
# Broadsheet.Proofs.Yaml.Plain

Plain scalars, told by their pieces (`ReadsPlain`).  A plain scalar that ends
with a text is the same scalar if white space follows the text, but there the
reading only ends behind the white space.
-/

namespace Broadsheet.Yaml

variable {f : Frame}

/-! ## Pieces -/

theorem badColon_framed (flow : Bool) (x : Char) (r : List Char) :
    badColon flow x (r ++ f.after) = badColon flow x r := by
  rw [badColon, badColon, any_head_framed fun y hy => ?_]
  obtain rfl | rfl | rfl | rfl | rfl | rfl | rfl := gap_cases hy <;> decide

theorem endsPlain_framed (flow : Bool) (x : Char) (r : List Char) :
    endsPlain flow x (r ++ f.after) = endsPlain flow x r := by
  simp only [endsPlain, blankAhead_framed]

/-- A piece of a framed text is one of the text itself, or all of that text. -/
theorem plainRun_framed {flow : Bool} {s run : List Char} {ends : Bool}
    (h : plainRun flow (s ++ f.after) = some (run, ends)) :
    (plainRun flow s = some (run, ends) ∧ run.length < s.length) ∨
      (plainRun flow s = some (s, true) ∧ run = s ∧ ends = f.after.isEmpty) := by
  induction s generalizing run with
  | nil =>
      refine .inr ⟨rfl, ?_⟩
      rw [List.nil_append] at h
      cases hw : f.after with
      | nil => simp_all [plainRun]
      | cons x w =>
          have hgap := f.isGap_of_mem x (by simp [hw])
          simp_all [plainRun, isGap]
  | cons x r ih =>
      rw [List.cons_append, plainRun, badColon_framed, endsPlain_framed] at h
      rw [plainRun]
      split at h
      · simp_all
      · split at h
        · cases h
        · split at h
          · simp_all
          · obtain ⟨⟨run, ends'⟩, hrun, hpair⟩ := Option.map_eq_some_iff.mp h
            cases hpair
            obtain ⟨hcore, hlt⟩ | ⟨hcore, rfl, hends⟩ := ih hrun
            · exact .inl ⟨by simp_all, Nat.succ_lt_succ hlt⟩
            · exact .inr ⟨by simp_all, rfl, hends⟩

/-- A piece ends before white space, or where the scalar ends, or it has its first character. -/
theorem plainRun_cons_cases {flow : Bool} {x : Char} {r run : List Char} {ends : Bool}
    (h : plainRun flow (x :: r) = some (run, ends)) :
    (isGap x = true ∧ run = [] ∧ ends = false) ∨
      (endsPlain flow x r = true ∧ run = [] ∧ ends = true) ∨
        ∃ run', run = x :: run' ∧ plainRun flow r = some (run', ends) := by
  rw [plainRun] at h
  split at h
  · next hgap =>
      cases h
      exact .inl ⟨hgap, rfl, rfl⟩
  · split at h
    · cases h
    · split at h
      · next hends =>
          cases h
          exact .inr (.inl ⟨hends, rfl, rfl⟩)
      · obtain ⟨⟨run', ends'⟩, hrun, hpair⟩ := Option.map_eq_some_iff.mp h
        cases hpair
        exact .inr (.inr ⟨run', rfl, hrun⟩)

theorem prefixed_of_plainRun {flow : Bool} {s run : List Char} {ends : Bool}
    (h : plainRun flow s = some (run, ends)) : run <+: s := by
  induction s generalizing run with
  | nil => simp_all [plainRun]
  | cons x r ih =>
      obtain ⟨-, rfl, -⟩ | ⟨-, rfl, -⟩ | ⟨run, rfl, hrun⟩ := plainRun_cons_cases h
      · exact List.nil_prefix
      · exact List.nil_prefix
      · exact List.cons_prefix_cons.mpr ⟨rfl, ih hrun⟩

/-- A piece that does not end the scalar ends before white space. -/
theorem exists_gap_of_plainRun {flow : Bool} {s run : List Char}
    (h : plainRun flow s = some (run, false)) : ∃ x r, s = run ++ x :: r ∧ isGap x = true := by
  induction s generalizing run with
  | nil => simp [plainRun] at h
  | cons x r ih =>
      obtain ⟨hgap, rfl, -⟩ | ⟨-, -, hends⟩ | ⟨run, rfl, hrun⟩ := plainRun_cons_cases h
      · exact ⟨x, r, rfl, hgap⟩
      · cases hends
      · obtain ⟨y, r', rfl, hy⟩ := ih hrun
        exact ⟨y, r', rfl, hy⟩

/-! ## Scalars -/

namespace Gap

/-- What a piece behind the gap adds to a scalar: nothing if there is no piece. -/
def written (g : Gap) (run : List Char) : List Char := if run.isEmpty then [] else g.text ++ run

/-- The gap that is left behind a piece. -/
def left (g : Gap) (run : List Char) : Gap := if run.isEmpty then g else .none

end Gap

/-- Whether a plain scalar cannot go on at a place. -/
def Cursor.stopsPlain (c : Cursor) : Bool := c.atDocumentMark || c.rest.head? == some '#'

/-- The reading of a plain scalar, piece by piece. -/
inductive ReadsPlain (flow : Bool) (indent : Nat) : Gap → Cursor → PlainScalar → Prop
  | stop {g : Gap} {c : Cursor} : c.stopsPlain = true →
      ReadsPlain flow indent g c ⟨[], g.broken, c⟩
  | ends {g : Gap} {c : Cursor} {run : List Char} : c.stopsPlain = false →
      plainRun flow c.rest = some (run, true) →
      ReadsPlain flow indent g c ⟨g.written run, (g.left run).broken, c.skip run.length⟩
  | outside {g g' : Gap} {c d : Cursor} {run : List Char} : c.stopsPlain = false →
      plainRun flow c.rest = some (run, false) →
      Gap.read indent ((c.skip run.length).rest.length + 1) (g.left run) (c.skip run.length) =
        some (g', d) →
      (!flow && d.column < indent) = true → ReadsPlain flow indent g c ⟨g.written run, g'.broken, d⟩
  | more {g g' : Gap} {c d : Cursor} {run : List Char} {p : PlainScalar} : c.stopsPlain = false →
      plainRun flow c.rest = some (run, false) →
      Gap.read indent ((c.skip run.length).rest.length + 1) (g.left run) (c.skip run.length) =
        some (g', d) →
      (!flow && d.column < indent) = false → ReadsPlain flow indent g' d p →
      ReadsPlain flow indent g c { p with text := g.written run ++ p.text }

section Reading

variable {flow : Bool} {indent fuel : Nat} {g g' : Gap} {c d : Cursor} {run : List Char}
  {p : PlainScalar}

theorem readPlain_succ :
    readPlain flow indent (fuel + 1) g c =
      if c.stopsPlain then some ⟨[], g.broken, c⟩
      else (plainRun flow c.rest).bind fun (run, ends) =>
        if ends then some ⟨g.written run, (g.left run).broken, c.skip run.length⟩
        else
          (Gap.read indent ((c.skip run.length).rest.length + 1) (g.left run)
            (c.skip run.length)).bind fun (g', d) =>
              if !flow && d.column < indent then some ⟨g.written run, g'.broken, d⟩
              else (readPlain flow indent fuel g' d).bind fun p =>
                some { p with text := g.written run ++ p.text } :=
  rfl

theorem readsPlain_of_readPlain (h : readPlain flow indent fuel g c = some p) :
    ReadsPlain flow indent g c p := by
  induction fuel generalizing g c p with
  | zero => cases h
  | succ fuel ih =>
      rw [readPlain_succ] at h
      split at h
      · next hstop =>
          cases h
          exact .stop hstop
      · next hstop =>
          have hstop : c.stopsPlain = false := by simpa using hstop
          obtain ⟨⟨run, ends⟩, hrun, h⟩ := Option.bind_eq_some_iff.mp h
          cases ends with
          | true =>
              cases h
              exact .ends hstop hrun
          | false =>
              obtain ⟨⟨g', d⟩, hread, h⟩ := Option.bind_eq_some_iff.mp h
              dsimp only at h
              split at h
              · next hcolumn =>
                  cases h
                  exact .outside hstop hrun hread hcolumn
              · next hcolumn =>
                  obtain ⟨p, hp, h⟩ := Option.bind_eq_some_iff.mp h
                  cases h
                  exact .more hstop hrun hread (by simpa using hcolumn) (ih hp)

theorem before_plainRun {ends : Bool} (h : plainRun flow c.rest = some (run, ends)) :
    c.Before (c.skip run.length) :=
  Cursor.before_skip (prefixed_of_plainRun h).length_le

/-- A gap behind a piece is not empty. -/
theorem length_lt_of_plainRun (hrun : plainRun flow c.rest = some (run, false))
    (hread : Gap.read indent ((c.skip run.length).rest.length + 1) g (c.skip run.length) =
      some (g', d)) : d.rest.length < c.rest.length := by
  obtain ⟨x, r, hrest, hx⟩ := exists_gap_of_plainRun hrun
  have hskip : (c.skip run.length).rest = x :: r := by simp [Cursor.skip, hrest]
  calc d.rest.length
    _ < (c.skip run.length).rest.length := Gap.length_read_lt (Nat.lt_succ_self _) hread hskip hx
    _ ≤ c.rest.length := (before_plainRun hrun).length_le

theorem ReadsPlain.before (h : ReadsPlain flow indent g c p) : c.Before p.cursor := by
  induction h with
  | stop => exact .refl _
  | ends _ hrun => exact before_plainRun hrun
  | outside _ hrun hread => exact (before_plainRun hrun).trans (Gap.blank_read hread).before
  | more _ hrun hread _ _ ih =>
      exact (before_plainRun hrun).trans ((Gap.blank_read hread).before.trans ih)

/-- A plain scalar begins with its first character. -/
theorem ReadsPlain.before_of_cons {x : Char} {r : List Char} (h : ReadsPlain flow indent g c p)
    (hc : c.rest = x :: r) (hstop : c.stopsPlain = false) (hx : isGap x = false)
    (hends : endsPlain flow x r = false) : (c.skip 1).Before p.cursor := by
  have hrun {run : List Char} {ends : Bool} (hrun : plainRun flow c.rest = some (run, ends)) :
      (c.skip 1).Before (c.skip run.length) := by
    refine Cursor.before_skip_of_le ?_ (prefixed_of_plainRun hrun).length_le
    rw [hc] at hrun
    obtain ⟨hgap, -⟩ | ⟨hends', -⟩ | ⟨run', rfl, -⟩ := plainRun_cons_cases hrun
    · simp [hx] at hgap
    · simp [hends] at hends'
    · exact Nat.succ_le_succ (Nat.zero_le _)
  cases h with
  | stop hstop' => simp [hstop] at hstop'
  | ends _ hrun' => exact hrun hrun'
  | outside _ hrun' hread => exact (hrun hrun').trans (Gap.blank_read hread).before
  | more _ hrun' hread _ hmore =>
      exact (hrun hrun').trans ((Gap.blank_read hread).before.trans hmore.before)

theorem ReadsPlain.readPlain_eq (h : ReadsPlain flow indent g c p) (hfuel : c.rest.length < fuel) :
    readPlain flow indent fuel g c = some p := by
  induction h generalizing fuel with
  | stop hstop =>
      obtain ⟨k, rfl⟩ : ∃ k, fuel = k + 1 := ⟨fuel - 1, by omega⟩
      rw [readPlain_succ, if_pos hstop]
  | ends hstop hrun =>
      obtain ⟨k, rfl⟩ : ∃ k, fuel = k + 1 := ⟨fuel - 1, by omega⟩
      simp [readPlain_succ, hstop, hrun]
  | outside hstop hrun hread hcolumn =>
      obtain ⟨k, rfl⟩ : ∃ k, fuel = k + 1 := ⟨fuel - 1, by omega⟩
      simp only [readPlain_succ, hstop, hrun, hread, hcolumn, Option.bind_some, Bool.false_eq_true,
        if_true, if_false]
  | more hstop hrun hread hcolumn _ ih =>
      obtain ⟨k, rfl⟩ : ∃ k, fuel = k + 1 := ⟨fuel - 1, by omega⟩
      have hlt := length_lt_of_plainRun hrun hread
      have hnext : readPlain flow indent k _ _ = some _ := ih (by omega)
      simp only [readPlain_succ, hstop, hrun, hread, hcolumn, hnext, Option.bind_some,
        Bool.false_eq_true, if_false]

end Reading

/-- Behind the end of a text there is no more of a scalar. -/
theorem ReadsPlain.of_rest_eq_nil {flow : Bool} {indent : Nat} {g : Gap} {c : Cursor}
    {p : PlainScalar} (h : ReadsPlain flow indent g c p) (hc : c.rest = []) :
    p.text = [] ∧ p.cursor = c := by
  cases h with
  | stop => exact ⟨rfl, rfl⟩
  | ends _ hrun =>
      obtain rfl : _ = [] := by simpa [hc, plainRun, eq_comm] using hrun
      exact ⟨rfl, rfl⟩
  | outside _ hrun => simp [hc, plainRun] at hrun
  | more _ hrun => simp [hc, plainRun] at hrun

/-- A gap of a framed text behind a piece that the text goes on after. -/
theorem Gap.exists_read_of_framed {limit : Nat} {g g' : Gap} {c d : Cursor} {n : Nat}
    (htight : Tight c.rest) (hn : n < c.rest.length)
    (h : read limit (((c.framed f).skip n).rest.length + 1) g ((c.framed f).skip n) =
      some (g', d)) :
    ∃ d', read limit ((c.skip n).rest.length + 1) g (c.skip n) = some (g', d') ∧
      d'.rest ≠ [] ∧ d = d'.framed f := by
  have hskip : c.Before (c.skip n) := Cursor.before_skip (Nat.le_of_lt hn)
  have hne : (c.skip n).rest ≠ [] := by simpa [Cursor.skip] using hn
  have htight := htight.suffix hskip.suffix
  rw [Cursor.skip_framed (Nat.le_of_lt hn), read_framed htight hne (Nat.lt_succ_self _)
    (by simp only [Cursor.framed, List.length_append]; omega)] at h
  obtain ⟨d', hread, rfl⟩ := f.move_eq_some_iff.mp h
  exact ⟨d', hread, (blank_read hread).ne_nil htight hne, rfl⟩

/-- A gap behind the text inside a frame is read to its end. -/
theorem Gap.rest_eq_nil_of_framed {limit : Nat} {g g' : Gap} {c d : Cursor}
    (h : read limit (((c.framed f).skip c.rest.length).rest.length + 1) g
      ((c.framed f).skip c.rest.length) = some (g', d)) :
    d.rest = [] ∧ ((c.skip c.rest.length).framed f).Blank d := by
  rw [Cursor.skip_framed (Nat.le_refl _)] at h
  have hblank := blank_read h
  refine ⟨hblank.before.eq_nil (fun x hx => f.isGap_of_mem x ?_)
    (read_stops (Nat.lt_succ_self _) h), hblank⟩
  simpa [Cursor.framed, Cursor.skip] using hx

theorem Cursor.stopsPlain_framed {c : Cursor} (hne : c.rest ≠ []) :
    (c.framed f).stopsPlain = c.stopsPlain := by
  obtain ⟨x, r, hc⟩ := List.exists_cons_of_ne_nil hne
  rw [stopsPlain, stopsPlain, atDocumentMark_framed, rest_framed f hc, hc]
  rfl

/-- **Plain scalars in a frame**: a plain scalar of a framed text is one of the
text itself. -/
theorem ReadsPlain.of_framed {flow : Bool} {indent : Nat} {g : Gap} {c : Cursor} {p : PlainScalar}
    (h : ReadsPlain flow indent g (c.framed f) p) (htight : Tight c.rest) (hne : c.rest ≠ []) :
    ∃ q, ReadsPlain flow indent g c q ∧ p.text = q.text ∧ f.Meets q.cursor p.cursor ∧
      (q.cursor.rest ≠ [] → p.broken = q.broken) := by
  generalize hframed : c.framed f = framed at h
  induction h generalizing c with
  | stop hstop =>
      subst hframed
      rw [Cursor.stopsPlain_framed hne] at hstop
      exact ⟨_, .stop hstop, rfl, .inl rfl, fun _ => rfl⟩
  | ends hstop hrun =>
      subst hframed
      rw [Cursor.stopsPlain_framed hne] at hstop
      obtain ⟨hcore, hlt⟩ | ⟨hcore, rfl, hends⟩ := plainRun_framed hrun
      · exact ⟨_, .ends hstop hcore, rfl, .inl (Cursor.skip_framed (Nat.le_of_lt hlt)),
          fun _ => rfl⟩
      · exact ⟨_, .ends hstop hcore, rfl, .inl (Cursor.skip_framed (Nat.le_refl _)), fun _ => rfl⟩
  | @outside g g' c' d run hstop hrun hread hcolumn =>
      subst hframed
      rw [Cursor.stopsPlain_framed hne] at hstop
      obtain ⟨hcore, hlt⟩ | ⟨hcore, rfl, -⟩ := plainRun_framed hrun
      · obtain ⟨d', hread', -, rfl⟩ := Gap.exists_read_of_framed htight hlt hread
        exact ⟨_, .outside hstop hcore hread' hcolumn, rfl, .inl rfl, fun _ => rfl⟩
      · have hend : (c.skip c.rest.length).rest = [] := List.drop_length
        obtain ⟨-, hblank⟩ := Gap.rest_eq_nil_of_framed hread
        exact ⟨_, .ends hstop hcore, rfl, .inr ⟨hend, hblank⟩, fun h => absurd hend h⟩
  | @more g g' c' d run p hstop hrun hread hcolumn hmore ih =>
      subst hframed
      rw [Cursor.stopsPlain_framed hne] at hstop
      obtain ⟨hcore, hlt⟩ | ⟨hcore, rfl, -⟩ := plainRun_framed hrun
      · obtain ⟨d', hread', hne', rfl⟩ := Gap.exists_read_of_framed htight hlt hread
        have hbefore := (before_plainRun hcore).trans (Gap.blank_read hread').before
        obtain ⟨q, hq, htext, hends⟩ := ih (htight.suffix hbefore.suffix) hne' rfl
        exact ⟨_, .more hstop hcore hread' hcolumn hq, by rw [htext], hends⟩
      · -- nothing but white space is read after the end of the text
        have hend : (c.skip c.rest.length).rest = [] := List.drop_length
        obtain ⟨hd, hblank⟩ := Gap.rest_eq_nil_of_framed hread
        obtain ⟨htext, rfl⟩ := hmore.of_rest_eq_nil hd
        exact ⟨_, .ends hstop hcore, by rw [htext, List.append_nil], .inr ⟨hend, hblank⟩,
          fun h => absurd hend h⟩

end Broadsheet.Yaml

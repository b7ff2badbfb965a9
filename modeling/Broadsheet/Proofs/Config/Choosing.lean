import Broadsheet.Config.Resolve

/-!
# Broadsheet.Proofs.Config.Choosing

Choices under the two policies.  Each of the six fields of choices has its own
table, and its default stands in two places: as the text that is chosen where
nothing is, and as the value that a rendering has where nothing is.  These
correspond (`ChoiceField.find?_builtin`), so taking the default value for a
choice is recognising the default text in its place, and the lenient policy is
the strict one on choices with those texts filled in.

* `DefaultChoices.resolve_reject` — what the strict policy makes of choices;
* `DefaultChoices.resolve_warn` — what the lenient one makes of them;
* `DefaultChoices.resolve_policies` — how the two agree.
-/

namespace Broadsheet

/-! ## Colors -/

/-- A digit of a color. -/
def isColorDigit (c : Char) : Bool :=
  c.isDigit || ('a' ≤ c && c ≤ 'f') || ('A' ≤ c && c ≤ 'F')

namespace Choices

theorem isHexColor_iff {value : String} : isHexColor value = true ↔
    ∃ digits, value.toList = '#' :: digits ∧
      (digits.length = 3 ∨ digits.length = 6 ∨ digits.length = 8) ∧ digits.all isColorDigit := by
  rw [isHexColor]
  split
  · next digits hdigits =>
      simp only [Bool.and_eq_true, Bool.or_eq_true, beq_iff_eq, or_assoc, hdigits,
        List.cons.injEq, true_and, exists_eq_left']
      rfl
  · next hnone =>
      simp only [Bool.false_eq_true, false_iff]
      rintro ⟨digits, hdigits, -⟩
      exact hnone digits hdigits

/-- A color that can be chosen is written in hexadecimal digits. -/
theorem isHexColor_of_color? {name color : String} (h : color? name = some color) :
    isHexColor color = true := by
  have hcolors : ∀ c ∈ colors, isHexColor c.2 = true := by decide
  rw [color?] at h
  split at h
  · next hex hlookup =>
      obtain rfl := Option.some.inj h
      obtain ⟨before, after, hsplit, -⟩ := List.lookup_eq_some_iff.mp hlookup
      exact hcolors (name, hex) (by simp [hsplit])
  · split at h
    · next hname =>
        obtain rfl := Option.some.inj h
        exact hname
    · contradiction

/-- No label is a color in digits, so such a color is chosen by itself. -/
theorem color?_of_isHexColor {value : String} (h : isHexColor value = true) :
    color? value = some value := by
  have hlabels : ∀ c ∈ colors, isHexColor c.1 = false := by decide
  rw [color?]
  split
  · next hex hlookup =>
      obtain ⟨before, after, hsplit, -⟩ := List.lookup_eq_some_iff.mp hlookup
      have hlabel := hlabels (value, hex) (by simp [hsplit])
      rw [h] at hlabel
      contradiction
  · rw [if_pos h]

end Choices

/-! ## Fields -/

/-- The fields of choices that stand for a value. -/
inductive ChoiceField
  | theme | fontFamily | fontSize | primaryColor | legend | codeTheme
  deriving DecidableEq

namespace ChoiceField

/-- The fields, in the order in which they are looked up. -/
def all : List ChoiceField := [theme, fontFamily, fontSize, primaryColor, legend, codeTheme]

/-- The field's name in settings. -/
def name : ChoiceField → String
  | theme => "theme"
  | fontFamily => "font_family"
  | fontSize => "font_size"
  | primaryColor => "primary_color"
  | legend => "legend"
  | codeTheme => "code_theme"

/-- What the choices of a field stand for. -/
def Value : ChoiceField → Type
  | theme => ThemeId
  | legend => Legend
  | _ => String

/-- The value that a text stands for in a field. -/
def find? : (f : ChoiceField) → String → Option f.Value
  | theme => ThemeId.ofText?
  | fontFamily => Choices.fontFamily?
  | fontSize => Choices.fontSize?
  | primaryColor => Choices.color?
  | legend => Choices.legend?
  | codeTheme => Choices.codeTheme?

/-- The value of a rendering where nothing is chosen. -/
def default : (f : ChoiceField) → f.Value
  | theme => RenderOptions.default.theme
  | fontFamily => RenderOptions.default.fontFamily
  | fontSize => RenderOptions.default.fontSize
  | primaryColor => RenderOptions.default.primaryColor
  | legend => RenderOptions.default.legend
  | codeTheme => RenderOptions.default.codeTheme

/-- What choices say in a field. -/
def text (d : DefaultChoices) : ChoiceField → String
  | theme => d.theme
  | fontFamily => d.fontFamily
  | fontSize => d.fontSize
  | primaryColor => d.primaryColor
  | legend => d.legend
  | codeTheme => d.codeTheme

/-- **The two defaults of a field correspond**: the text that is chosen where nothing is stands for
the value of a rendering where nothing is chosen. -/
theorem find?_builtin (f : ChoiceField) : f.find? (f.text .builtin) = some f.default := by
  cases f <;> rfl

/-- A text with the default in its place if the field does not recognise it. -/
def orBuiltin (f : ChoiceField) (s : String) : String :=
  if (f.find? s).isSome then s else f.text .builtin

theorem find?_orBuiltin (f : ChoiceField) (s : String) :
    f.find? (f.orBuiltin s) = some ((f.find? s).getD f.default) := by
  rw [orBuiltin]
  cases hfound : f.find? s with
  | none => simpa using f.find?_builtin
  | some a => simpa using hfound

/-- A text that stands in for itself is one that the field recognises. -/
theorem orBuiltin_eq_self_iff (f : ChoiceField) (s : String) :
    f.orBuiltin s = s ↔ (f.find? s).isSome := by
  constructor
  · intro h
    rw [← h, find?_orBuiltin]
    rfl
  · intro h
    rw [orBuiltin, if_pos h]

end ChoiceField

/-! ## Policies -/

namespace DefaultChoices

/-- The choices with the defaults in place of those that are not recognised. -/
def recognized (d : DefaultChoices) : DefaultChoices :=
  { d with
    theme := ChoiceField.theme.orBuiltin d.theme
    fontFamily := ChoiceField.fontFamily.orBuiltin d.fontFamily
    fontSize := ChoiceField.fontSize.orBuiltin d.fontSize
    primaryColor := ChoiceField.primaryColor.orBuiltin d.primaryColor
    legend := ChoiceField.legend.orBuiltin d.legend
    codeTheme := ChoiceField.codeTheme.orBuiltin d.codeTheme }

/-- The first field whose choice is not recognised. -/
def firstUnrecognized? (d : DefaultChoices) : Option ChoiceField :=
  ChoiceField.all.find? fun f => (f.find? (f.text d)).isNone

/-- The value that a choice stands for, or the default. -/
def value (d : DefaultChoices) (f : ChoiceField) : f.Value :=
  (f.find? (f.text d)).getD f.default

/-- The options with the default wherever a choice is not recognised. -/
def options (d : DefaultChoices) : RenderOptions where
  theme := d.value .theme
  fontFamily := d.value .fontFamily
  fontSize := d.value .fontSize
  useIndent := d.useIndent
  primaryColor := d.value .primaryColor
  citations := d.citations
  legend := d.value .legend
  macCodeBlocks := d.macCodeBlocks
  codeTheme := d.value .codeTheme
  customCss := none
  footnoteHeading := d.footnoteHeading.getD RenderOptions.default.footnoteHeading

/-- Whether the policy lets the choice of a field pass. -/
def check (d : DefaultChoices) (f : ChoiceField) : Except OptionError Unit :=
  match f.find? (f.text d), d.fallback with
  | none, .reject => .error ⟨f.name, f.text d⟩
  | _, _ => .ok ()

theorem pick_eq_check (d : DefaultChoices) (f : ChoiceField) :
    pick d.fallback f.name (f.text d) (f.find? (f.text d)) f.default =
      d.check f >>= fun _ => .ok (d.value f) := by
  rw [check, value]
  cases hfound : f.find? (f.text d) with
  | none => cases hpolicy : d.fallback <;> rfl
  | some a => rfl

/-- Resolving is checking the fields one after the other; the options that it gives do not depend
on the policy. -/
theorem resolve_eq_check (d : DefaultChoices) :
    d.resolve = forM ChoiceField.all d.check >>= fun _ => .ok d.options := by
  have hfields : d.resolve = (do
      let theme ← d.check .theme >>= fun _ => .ok (d.value .theme)
      let fontFamily ← d.check .fontFamily >>= fun _ => .ok (d.value .fontFamily)
      let fontSize ← d.check .fontSize >>= fun _ => .ok (d.value .fontSize)
      let primaryColor ← d.check .primaryColor >>= fun _ => .ok (d.value .primaryColor)
      let legend ← d.check .legend >>= fun _ => .ok (d.value .legend)
      let codeTheme ← d.check .codeTheme >>= fun _ => .ok (d.value .codeTheme)
      return { d.options with
        theme := theme
        fontFamily := fontFamily
        fontSize := fontSize
        primaryColor := primaryColor
        legend := legend
        codeTheme := codeTheme }) := by
    simp only [← pick_eq_check]
    rfl
  rw [hfields]
  simp only [ChoiceField.all, List.forM_cons, List.forM_nil, bind_assoc]
  rfl

/-- What is resolved at all is resolved to the same options. -/
theorem eq_options_of_resolve {d : DefaultChoices} {o : RenderOptions} (h : d.resolve = .ok o) :
    o = d.options := by
  rw [resolve_eq_check] at h
  cases hcheck : forM ChoiceField.all d.check with
  | error e =>
      rw [hcheck] at h
      cases h
  | ok u =>
      rw [hcheck] at h
      exact (Except.ok.inj h).symm

theorem forM_check_warn {d : DefaultChoices} (h : d.fallback = .warn) (fs : List ChoiceField) :
    forM fs d.check = .ok () := by
  induction fs with
  | nil => rfl
  | cons f fs ih =>
      have hf : d.check f = .ok () := by
        rw [check, h]
        split
        · contradiction
        · rfl
      rw [List.forM_cons, hf]
      exact ih

/-- The strict policy stops at the first field whose choice is not recognised. -/
theorem forM_check_reject {d : DefaultChoices} (h : d.fallback = .reject) (fs : List ChoiceField) :
    forM fs d.check =
      match fs.find? fun f => (f.find? (f.text d)).isNone with
      | some f => .error ⟨f.name, f.text d⟩
      | none => .ok () := by
  induction fs with
  | nil => rfl
  | cons f fs ih =>
      rw [List.forM_cons]
      cases hfound : f.find? (f.text d) with
      | none =>
          have hf : d.check f = .error ⟨f.name, f.text d⟩ := by rw [check, hfound, h]
          rw [hf, List.find?_cons_of_pos (by rw [hfound]; rfl)]
          rfl
      | some a =>
          have hf : d.check f = .ok () := by rw [check, hfound]
          rw [hf, List.find?_cons_of_neg (by rw [hfound]; exact Bool.false_ne_true)]
          exact ih

/-- **The lenient policy** resolves all choices. -/
theorem resolve_warn {d : DefaultChoices} (h : d.fallback = .warn) : d.resolve = .ok d.options := by
  rw [resolve_eq_check, forM_check_warn h]
  rfl

/-- **The strict policy** resolves choices that are all recognised, and otherwise reports the
first one that is not. -/
theorem resolve_reject {d : DefaultChoices} (h : d.fallback = .reject) :
    d.resolve =
      match d.firstUnrecognized? with
      | some f => .error ⟨f.name, f.text d⟩
      | none => .ok d.options := by
  rw [resolve_eq_check, forM_check_reject h, firstUnrecognized?]
  cases ChoiceField.all.find? fun f => (f.find? (f.text d)).isNone with
  | none => rfl
  | some f => rfl

/-! ## The defaults filled in -/

theorem text_recognized (d : DefaultChoices) (f : ChoiceField) :
    f.text d.recognized = f.orBuiltin (f.text d) := by
  cases f <;> rfl

/-- The default text stands for the default value, so filling it in changes no value. -/
theorem value_recognized (d : DefaultChoices) (f : ChoiceField) :
    d.recognized.value f = d.value f := by
  rw [value, text_recognized, ChoiceField.find?_orBuiltin]
  rfl

theorem options_recognized (d : DefaultChoices) : d.recognized.options = d.options := by
  simp only [options, value_recognized]
  rfl

theorem firstUnrecognized?_eq_none_iff (d : DefaultChoices) :
    d.firstUnrecognized? = none ↔ ∀ f : ChoiceField, (f.find? (f.text d)).isSome := by
  have hall (f : ChoiceField) : f ∈ ChoiceField.all := by cases f <;> decide
  simp [firstUnrecognized?, List.find?_eq_none, hall, Option.isSome_iff_ne_none]

/-- Nothing is to be filled in exactly if every choice is recognised. -/
theorem recognized_eq_self_iff (d : DefaultChoices) :
    d.recognized = d ↔ d.firstUnrecognized? = none := by
  rw [firstUnrecognized?_eq_none_iff]
  constructor
  · intro h f
    rw [← f.orBuiltin_eq_self_iff, ← text_recognized, h]
  · intro h
    have hfield (f : ChoiceField) : f.orBuiltin (f.text d) = f.text d :=
      (f.orBuiltin_eq_self_iff _).mpr (h f)
    have htheme := hfield .theme
    have hfamily := hfield .fontFamily
    have hsize := hfield .fontSize
    have hcolor := hfield .primaryColor
    have hlegend := hfield .legend
    have hcode := hfield .codeTheme
    simp only [ChoiceField.text] at htheme hfamily hsize hcolor hlegend hcode
    rw [recognized, htheme, hfamily, hsize, hcolor, hlegend, hcode]

theorem firstUnrecognized?_recognized (d : DefaultChoices) :
    d.recognized.firstUnrecognized? = none := by
  rw [firstUnrecognized?_eq_none_iff]
  intro f
  rw [text_recognized, ChoiceField.find?_orBuiltin]
  rfl

/-- The color of the options can be chosen by itself. -/
theorem color?_options (d : DefaultChoices) :
    Choices.color? d.options.primaryColor = some d.options.primaryColor := by
  have hchosen : Choices.color? (ChoiceField.primaryColor.orBuiltin d.primaryColor) =
      some d.options.primaryColor :=
    ChoiceField.primaryColor.find?_orBuiltin d.primaryColor
  exact Choices.color?_of_isHexColor (Choices.isHexColor_of_color? hchosen)

/-! ## The two policies -/

/-- The choices under a policy. -/
def withPolicy (d : DefaultChoices) (policy : FallbackPolicy) : DefaultChoices :=
  { d with fallback := policy }

section WithPolicy

variable (d : DefaultChoices) (policy : FallbackPolicy)

theorem text_withPolicy (f : ChoiceField) : f.text (d.withPolicy policy) = f.text d := by
  cases f <;> rfl

theorem firstUnrecognized?_withPolicy :
    (d.withPolicy policy).firstUnrecognized? = d.firstUnrecognized? := by
  simp only [firstUnrecognized?, text_withPolicy]

theorem options_withPolicy : (d.withPolicy policy).options = d.options := by
  simp only [options, value, text_withPolicy]
  rfl

end WithPolicy

/-- **Choices under the two policies**: the strict one resolves exactly the choices that are all
recognised, and otherwise reports the first field that is not, with what was written there; the
lenient one resolves all choices, and gives what the strict one gives for them with the defaults
filled in.  A color that is resolved is written in digits and stands for itself. -/
theorem resolve_policies (d : DefaultChoices) :
    ((∃ o, (d.withPolicy .reject).resolve = .ok o) ↔ d.recognized = d) ∧
    (d.recognized = d ∨ ∃ f, d.firstUnrecognized? = some f ∧
      (d.withPolicy .reject).resolve = .error ⟨f.name, f.text d⟩) ∧
    (∃ o, (d.withPolicy .warn).resolve = .ok o ∧
      (d.recognized.withPolicy .reject).resolve = .ok o) ∧
    ∀ o, d.resolve = .ok o →
      (∃ digits, o.primaryColor.toList = '#' :: digits ∧
        (digits.length = 3 ∨ digits.length = 6 ∨ digits.length = 8) ∧ digits.all isColorDigit) ∧
      Choices.color? o.primaryColor = some o.primaryColor := by
  have hreject : (d.withPolicy .reject).resolve =
      match d.firstUnrecognized? with
      | some f => .error ⟨f.name, f.text d⟩
      | none => .ok d.options := by
    simpa only [firstUnrecognized?_withPolicy, text_withPolicy, options_withPolicy] using
      resolve_reject (d := d.withPolicy .reject) rfl
  refine ⟨?_, ?_, ⟨d.options, ?_, ?_⟩, ?_⟩
  · rw [hreject, recognized_eq_self_iff]
    cases d.firstUnrecognized? <;> simp
  · rw [hreject, recognized_eq_self_iff]
    cases hfirst : d.firstUnrecognized? with
    | none => exact .inl rfl
    | some f => exact .inr ⟨f, rfl, rfl⟩
  · rw [resolve_warn rfl, options_withPolicy]
  · rw [resolve_reject rfl, firstUnrecognized?_withPolicy, firstUnrecognized?_recognized,
      options_withPolicy, options_recognized]
  · intro o ho
    rw [eq_options_of_resolve ho]
    have hcolor := d.color?_options
    exact ⟨Choices.isHexColor_iff.mp (Choices.isHexColor_of_color? hcolor), hcolor⟩

/-- Choices with a size and a caption that stand for nothing. -/
def misspelled : DefaultChoices :=
  { builtin with
    fontFamily := "serif"
    fontSize := "14 px"
    primaryColor := "#abcDEF12"
    legend := "titel"
    codeTheme := "github.min.css" }

/-- The size comes before the caption. -/
theorem resolve_misspelled :
    (misspelled.withPolicy .reject).resolve = .error ⟨"font_size", "14 px"⟩ ∧
      ∃ o, (misspelled.withPolicy .warn).resolve = .ok o ∧
        (misspelled.recognized.withPolicy .reject).resolve = .ok o := by
  obtain ⟨-, hstrict, hlenient, -⟩ := resolve_policies misspelled
  have hne : misspelled.recognized ≠ misspelled := by decide +kernel
  have hfirst : misspelled.firstUnrecognized? = some .fontSize := by decide +kernel
  obtain ⟨f, hf, herror⟩ := hstrict.resolve_left hne
  obtain rfl : f = .fontSize := Option.some.inj (hf.symm.trans hfirst)
  exact ⟨herror, hlenient⟩

end DefaultChoices

end Broadsheet

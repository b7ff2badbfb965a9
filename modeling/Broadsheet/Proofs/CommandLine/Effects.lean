import Broadsheet.CommandLine.Run
import Broadsheet.Host.Described

/-!
# Broadsheet.Proofs.CommandLine.Effects

What a command has done when it fails.  `Host.recorded` keeps a record of what a
program does to the system: the files that it writes, the directories that it
makes, the text that it puts out and the requests that it sends.  Reading is
nothing that is done, and a message to the user counts for nothing either.

* `leaves_prepare`: all that a command needs is read before anything is done;
* `perform_fails`: after that only the last step can fail, the writing of the page;
* `run_failsClosed`: so a command that fails has done nothing, unless it is that
  step which failed;
* `run_failsClosed_described`: a described machine is left as it was.
-/

namespace Broadsheet

/-! ## Records -/

/-- Something that is done to the system. -/
inductive Deed
  | wrote (path content : String) (result : Except IoError Unit)
  | madeDirectories (path : String) (result : Except IoError Unit)
  | printed (text : String)
  | sent (request : HttpRequest)

section Records

variable {σ α : Type}

/-- Does something without a record. -/
def unrecorded (x : StateM σ α) : StateM (σ × List Deed) α := fun (s, deeds) =>
  let (a, t) := x.run s
  (a, t, deeds)

/-- Does something and records it. -/
def recording (deed : α → Deed) (x : StateM σ α) : StateM (σ × List Deed) α := fun (s, deeds) =>
  let (a, t) := x.run s
  (a, t, deeds ++ [deed a])

/-- The same system with a record of what is done to it. -/
def Host.recorded (host : Host (StateM σ)) : Host (StateM (σ × List Deed)) where
  currentDirectory := unrecorded host.currentDirectory
  pathExists path := unrecorded (host.pathExists path)
  readFile path := unrecorded (host.readFile path)
  writeFile path content := recording (.wrote path content) (host.writeFile path content)
  createDirectories path := recording (.madeDirectories path) (host.createDirectories path)
  environment := unrecorded host.environment
  readInput := unrecorded host.readInput
  writeOutput text := recording (fun _ => .printed text) (host.writeOutput text)
  writeError text := unrecorded (host.writeError text)
  send r := recording (fun _ => .sent r) (host.send r)

end Records

/-! ## What is left as it was -/

/-- Reading from a system, and messages, leave what is seen of it. -/
structure Host.ReadsLeave {σ β : Type} (host : Host (StateM σ)) (view : σ → β) : Prop where
  currentDirectory (s : σ) : view (host.currentDirectory.run s).2 = view s
  pathExists (path : String) (s : σ) : view ((host.pathExists path).run s).2 = view s
  readFile (path : String) (s : σ) : view ((host.readFile path).run s).2 = view s
  environment (s : σ) : view (host.environment.run s).2 = view s
  readInput (s : σ) : view (host.readInput.run s).2 = view s
  writeError (text : String) (s : σ) : view ((host.writeError text).run s).2 = view s

/-- The record is left by reading and by messages. -/
theorem Host.readsLeave_recorded {σ : Type} (host : Host (StateM σ)) :
    host.recorded.ReadsLeave Prod.snd :=
  ⟨fun _ => rfl, fun _ _ => rfl, fun _ _ => rfl, fun _ => rfl, fun _ => rfl, fun _ _ => rfl⟩

/-! ## Programs of a command -/

/-- Programs that keep diagrams while they run on a system. -/
abbrev Keeping (σ : Type) := StateT DiagramStore (StateM σ)

section Endings

variable {σ α γ : Type}

/-- What a program gives, and the system after it. -/
def endOf (x : Keeping σ α) (store : DiagramStore) (s : σ) : α × σ :=
  (((x.run store).run s).1.1, ((x.run store).run s).2)

@[simp] theorem endOf_pure (a : α) (store : DiagramStore) (s : σ) :
    endOf (pure a) store s = (a, s) := rfl

/-- The two parts of a program that has ended. -/
theorem exists_endOf_of_bind {x : Keeping σ α} {f : α → Keeping σ γ} {store : DiagramStore}
    {s u : σ} {c : γ} (h : endOf (x >>= f) store s = (c, u)) :
    ∃ a t store', endOf x store s = (a, t) ∧ endOf (f a) store' t = (c, u) :=
  ⟨_, _, _, rfl, h⟩

/-- What is seen of the system is the same after a program as before it. -/
def Leaves {β : Type} (view : σ → β) (x : Keeping σ α) : Prop :=
  ∀ store s, view (endOf x store s).2 = view s

namespace Leaves

variable {β : Type} {view : σ → β} {x : Keeping σ α}

theorem pure (a : α) : Leaves view (pure a) := fun _ _ => rfl

theorem bind {f : α → Keeping σ γ} (hx : Leaves view x) (hf : ∀ a, Leaves view (f a)) :
    Leaves view (x >>= f) := by
  intro store s
  obtain ⟨a, t, store', hend, hrest⟩ :=
    exists_endOf_of_bind (Prod.eta (endOf (x >>= f) store s)).symm
  have ht := hx store s
  have hu := hf a store' t
  rw [hend] at ht
  rw [hrest] at hu
  exact hu.trans ht

theorem lift {x : StateM σ α} (hx : ∀ s, view (x.run s).2 = view s) :
    Leaves view (monadLift x : Keeping σ α) := fun _ s => hx s

end Leaves

/-- Something holds of whatever a program gives. -/
def Gives (P : α → Prop) (x : Keeping σ α) : Prop := ∀ store s, P (endOf x store s).1

namespace Gives

theorem pure {P : α → Prop} {a : α} (h : P a) : Gives P (pure a : Keeping σ α) := fun _ _ => h

/-- What is given last. -/
theorem bind {P : γ → Prop} {x : Keeping σ α} {f : α → Keeping σ γ} (hf : ∀ a, Gives P (f a)) :
    Gives P (x >>= f) := by
  intro store s
  obtain ⟨a, t, store', -, hrest⟩ := exists_endOf_of_bind (Prod.eta (endOf (x >>= f) store s)).symm
  have hP := hf a store' t
  rwa [hrest] at hP

end Gives

end Endings

/-! ## Preparing -/

namespace CommandLine

section Preparing

variable {σ β : Type} {host : Host (StateM σ)} {view : σ → β} (hhost : host.ReadsLeave view)

include hhost

theorem leaves_readDocument (call : Invocation) : Leaves view (readDocument host.lift call) := by
  unfold readDocument
  split
  · exact .pure _
  · exact .lift hhost.readInput
  · split
    · exact .lift hhost.readInput
    · exact .lift (hhost.readFile _)

theorem leaves_discover (fuel : Nat) (directory : String) :
    Leaves view (Config.discover host.lift fuel directory) := by
  induction fuel generalizing directory with
  | zero => exact .pure none
  | succ fuel ih =>
      refine .bind (.lift (hhost.pathExists _)) fun found => ?_
      cases found with
      | true => exact .pure _
      | false =>
          cases Path.parent? directory with
          | none => exact .pure none
          | some up => exact ih up

theorem leaves_loadFile (path : String) : Leaves view (Config.loadFile host.lift path) := by
  refine .bind (.lift (hhost.readFile path)) fun content => ?_
  cases content with
  | error e => exact .pure _
  | ok content => exact .bind (.lift hhost.environment) fun env => .pure _

theorem leaves_loadBase : (path : Option String) → Leaves view (Config.loadBase host.lift path)
  | some path => by
      refine .bind (.lift (hhost.pathExists path)) fun found => ?_
      cases found with
      | true => exact leaves_loadFile hhost path
      | false => exact .pure _
  | none => by
      refine .bind (.lift hhost.currentDirectory) fun cwd => ?_
      refine .bind (leaves_discover hhost _ cwd) fun found => ?_
      cases found with
      | some path => exact leaves_loadFile hhost path
      | none => exact .pure _

theorem leaves_load (path : Option String) (cli : Option CliSettings) :
    Leaves view (Config.load host.lift path cli) := by
  refine .bind (leaves_loadBase hhost path) fun base => ?_
  cases base with
  | error e => exact .pure _
  | ok c => exact .pure _

theorem leaves_readCustomCss (options : RenderOptions) :
    (path : Option String) → Leaves view (readCustomCss host.lift options path)
  | none => .pure _
  | some path => by
      refine .bind (.lift (hhost.readFile path)) fun css => ?_
      cases css with
      | error e => exact .pure _
      | ok css => exact .pure _

theorem leaves_readOptions (config : Config) : Leaves view (readOptions? host.lift config) := by
  unfold readOptions?
  split
  · exact .pure _
  · exact .bind (leaves_readCustomCss hhost _ _) fun options => .pure _

/-- Preparing a command only reads. -/
theorem leaves_prepare (call : Invocation) : Leaves view (prepare host.lift call) := by
  refine .bind (leaves_readDocument hhost call) fun document => ?_
  cases document with
  | error e => exact .pure _
  | ok document =>
      refine .bind (leaves_load hhost call.config (some call.settings)) fun config => ?_
      cases config with
      | error e => exact .pure _
      | ok config =>
          refine .bind (leaves_readOptions hhost config) fun options => ?_
          cases options with
          | error e => exact .pure _
          | ok options => exact .pure _

end Preparing

/-! ## Converting and writing -/

section Finishing

variable {σ : Type} {host : Host (StateM σ)} {store : DiagramStore} {s t : σ}

/-- A document with text is converted, whatever the services do. -/
theorem gives_convert (c : Converter (Keeping σ)) (sheets : StylesheetStore) {markdown : String}
    (options : RenderOptions) (hblank : blankText markdown = false) :
    Gives (fun result => ∃ conversion, result.1 = .ok conversion)
      (c.convert sheets markdown options) := by
  unfold Converter.convert
  rw [if_neg (by simp [hblank])]
  exact .bind fun rendering => .bind fun sheet => .pure ⟨_, rfl⟩

/-- A conversion fails before anything is asked, or not at all. -/
theorem convertJob_fails {job : Job} {e : ConvertError}
    (hfails : endOf (convertJob host.lift job) store s = (.error e, t)) : t = s := by
  cases hblank : blankText job.document with
  | true =>
      unfold convertJob Converter.convert at hfails
      rw [if_pos hblank] at hfails
      exact (congrArg Prod.snd hfails).symm
  | false =>
      obtain ⟨conversion, hok⟩ :=
        gives_convert (converter host.lift job.config) ∅ job.options hblank store s
      have hresult : (endOf (convertJob host.lift job) store s).1 = .ok conversion := hok
      rw [hfails] at hresult
      exact nomatch hresult

/-- A page that cannot be written was to go to a file. -/
theorem writePage_fails {call : Invocation} {text : String} {e : IoError}
    (hfails : endOf (writePage host.lift call text) store s = (.error e, t)) :
    ∃ path, call.output = some path ∧ (host.writeFile path text).run s = (.error e, t) := by
  cases houtput : call.output with
  | none =>
      simp only [writePage, houtput] at hfails
      exact nomatch congrArg Prod.fst hfails
  | some path =>
      simp only [writePage, houtput] at hfails
      obtain ⟨result, u, store', hwrite, hfails⟩ := exists_endOf_of_bind hfails
      cases result with
      | error e' =>
          obtain ⟨rfl, rfl⟩ : e' = e ∧ u = t := by simpa using hfails
          exact ⟨path, rfl, hwrite⟩
      | ok _ => exact nomatch congrArg Prod.fst hfails

/-- A page is written after all messages on its conversion. -/
theorem finish_fails {call : Invocation} {conversion : Conversion} {e : IoError}
    (hfails : endOf (finish host.lift call conversion) store s = (.error e, t)) :
    ∃ path text u, call.output = some path ∧ (host.writeFile path text).run u = (.error e, t) := by
  obtain ⟨-, u, store', -, hfails⟩ := exists_endOf_of_bind hfails
  obtain ⟨path, houtput, hwrite⟩ := writePage_fails hfails
  exact ⟨path, _, u, houtput, hwrite⟩

end Finishing

/-! ## Commands -/

section Commands

variable {σ β : Type} {host : Host (StateM σ)} {view : σ → β} (hhost : host.ReadsLeave view)

include hhost

/-- A command that fails leaves what is seen of the system, unless it has come to its last step,
the writing of its page to a file. -/
theorem perform_fails {call : Invocation} {store : DiagramStore} {s t : σ} {reason : Failure}
    (hfails : endOf (perform host.lift call) store s = (.error reason, t)) :
    view t = view s ∨
      ∃ e path text u, reason = .write e ∧ call.output = some path ∧
        (host.writeFile path text).run u = (.error e, t) := by
  obtain ⟨prepared, t₁, store₁, hprepared, hrest⟩ := exists_endOf_of_bind hfails
  have hread : view t₁ = view s := by
    simpa [hprepared] using leaves_prepare hhost call store s
  cases prepared with
  | error e =>
      obtain ⟨-, rfl⟩ : e = reason ∧ t₁ = t := by simpa using hrest
      exact .inl hread
  | ok job =>
      obtain ⟨converted, t₂, store₂, hconverted, hlast⟩ := exists_endOf_of_bind hrest
      cases converted with
      | error e =>
          have hasked : t₂ = t₁ := convertJob_fails hconverted
          obtain ⟨-, rfl⟩ : .convert e = reason ∧ t₂ = t := by simpa using hlast
          exact .inl (hasked ▸ hread)
      | ok conversion =>
          obtain ⟨finished, t₃, store₃, hfinished, hend⟩ := exists_endOf_of_bind hlast
          cases finished with
          | error e =>
              obtain rfl : .write e = reason := Except.error.inj (congrArg Prod.fst hend)
              obtain rfl : t₃ = t := congrArg Prod.snd hend
              obtain ⟨path, text, u, houtput, hwrite⟩ := finish_fails hfinished
              exact .inr ⟨e, path, text, u, rfl, houtput, hwrite⟩
          | ok _ =>
              have hok : Except.ok () = .error reason := congrArg Prod.fst hend
              contradiction

end Commands

/-! ## The program -/

section Programs

variable {σ β : Type}

/-- Why a command fails on a system, if it does. -/
def failure? (host : Host (StateM σ)) (call : Invocation) (s : σ) : Option Failure :=
  match (endOf (perform host.lift call) ∅ s).1 with
  | .ok () => none
  | .error reason => some reason

theorem failure?_eq_some_iff {host : Host (StateM σ)} {call : Invocation} {s : σ}
    {reason : Failure} : failure? host call s = some reason ↔
      (endOf (perform host.lift call) ∅ s).1 = .error reason := by
  unfold failure?
  cases (endOf (perform host.lift call) ∅ s).1 <;> simp

theorem run_performAndReport (host : Host (StateM σ)) (call : Invocation) (s : σ) :
    (performAndReport host call).run s =
      match failure? host call s with
      | none => (.success, (endOf (perform host.lift call) ∅ s).2)
      | some reason =>
          (.failure, ((host.writeError ("Error: " ++ reason.message ++ "\n")).run
            (endOf (perform host.lift call) ∅ s).2).2) := by
  unfold performAndReport failure? endOf
  rw [StateT.run_bind]
  cases ((perform host.lift call : Keeping σ _).run ∅).run s with
  | mk performed t =>
      obtain ⟨result, store⟩ := performed
      cases result <;> rfl

variable {host : Host (StateM σ)} {args : List String} {s : σ} {call : Invocation}

theorem run_of_accepted (haccepted : readArguments (host.environment.run s).1 args = .ok call) :
    (run host args).run s = (performAndReport host call).run (host.environment.run s).2 := by
  have hbind (f : (String → Option String) → StateM σ Outcome) :
      (host.environment >>= f).run s =
        (f (host.environment.run s).1).run (host.environment.run s).2 := rfl
  rw [run, hbind, haccepted]

/-- The program ends with the number 1 where its command fails, and where it has done something
then, the last of that was to try to write its page to a file. -/
theorem run_fails {view : σ → β} (hhost : host.ReadsLeave view)
    (haccepted : readArguments (host.environment.run s).1 args = .ok call)
    (hcode : ((run host args).run s).1.exitCode = 1) :
    ∃ reason, failure? host call (host.environment.run s).2 = some reason ∧
      (view ((run host args).run s).2 = view s ∨
        ∃ e path text u, reason = .write e ∧ call.output = some path ∧
          ((host.writeFile path text).run u).1 = .error e ∧
          view ((run host args).run s).2 = view ((host.writeFile path text).run u).2) := by
  have hread := hhost.environment s
  rw [run_of_accepted haccepted] at hcode ⊢
  generalize (host.environment.run s).2 = s' at hcode hread ⊢
  rw [run_performAndReport] at hcode ⊢
  cases hfailure : failure? host call s' with
  | none =>
      rw [hfailure] at hcode
      exact absurd (show Outcome.success.exitCode = 1 from hcode) (by decide)
  | some reason =>
      refine ⟨reason, rfl, ?_⟩
      rw [hhost.writeError, ← hread]
      have hfails : endOf (perform host.lift call) ∅ s' = (.error reason, _) :=
        Prod.ext (failure?_eq_some_iff.mp hfailure) rfl
      obtain hkept | ⟨e, path, text, u, hreason, houtput, hwrite⟩ := perform_fails hhost hfails
      · exact .inl hkept
      · exact .inr ⟨e, path, text, u, hreason, houtput, by rw [hwrite], by rw [hwrite]⟩

/-- **The program fails closed.**  Where it ends with the number 1, it has sent no request, put
out no text, written no file and made no directory; unless the reason is that the page could not
be written to its file, which it tried last. -/
theorem run_failsClosed (host : Host (StateM σ))
    (haccepted : readArguments (host.environment.run s).1 args = .ok call)
    (hcode : ((run host.recorded args).run (s, [])).1.exitCode = 1) :
    let deeds := ((run host.recorded args).run (s, [])).2.2
    ∃ reason, failure? host.recorded call ((host.environment.run s).2, []) = some reason ∧
      (deeds = [] ∨ ∃ e path text, reason = .write e ∧ call.output = some path ∧
        deeds.getLast? = some (.wrote path text (.error e))) := by
  intro deeds
  obtain ⟨reason, hreason, hdeeds⟩ :=
    run_fails (s := (s, [])) host.readsLeave_recorded haccepted hcode
  refine ⟨reason, hreason, hdeeds.imp_right ?_⟩
  rintro ⟨e, path, text, u, rfl, houtput, hfailed, hlast⟩
  have hfailed : ((host.writeFile path text).run u.1).1 = .error e := hfailed
  have hlast : deeds = u.2 ++ [.wrote path text ((host.writeFile path text).run u.1).1] := hlast
  exact ⟨e, path, text, rfl, houtput, by rw [hlast, hfailed, List.getLast?_concat]⟩

/-- A machine whose user has a configuration with a section on diagrams but no server. -/
def serverlessMachine : Machine where
  files := [(["home"], .directory),
    (["home", "mdstyle.toml"], .file "[diagrams]\ntimeout_secs = 5\n")]
  cwd := ["home"]
  environment _ := none
  input := "# Title"
  output := ""
  errors := ""
  network _ := .error noNetwork
  requests := []

/-- To convert the standard input to a file. -/
def inputToFile : Invocation where
  command := .convert
  input := none
  output := some "out.html"
  json := false
  config := none
  settings := ⟨none, none, none, none, none, none, none, none, none, none, none, none⟩

/-- There the program does nothing. -/
theorem serverlessMachine_failsClosed :
    readArguments serverlessMachine.environment ["convert", "-o", "out.html"] = .ok inputToFile ∧
      ((run Machine.host.recorded ["convert", "-o", "out.html"]).run
        (serverlessMachine, [])).1.exitCode = 1 ∧
      failure? Machine.host.recorded inputToFile (serverlessMachine, []) =
        some (.config (.invalid "[diagrams] section requires kroki_url to be set")) ∧
      ((run Machine.host.recorded ["convert", "-o", "out.html"]).run
        (serverlessMachine, [])).2.2 = [] := by
  have haccepted : readArguments (Machine.host.environment.run serverlessMachine).1
      ["convert", "-o", "out.html"] = .ok inputToFile := rfl
  have hcode : ((run Machine.host.recorded ["convert", "-o", "out.html"]).run
      (serverlessMachine, [])).1.exitCode = 1 := by decide +kernel
  have hfailure : failure? Machine.host.recorded inputToFile (serverlessMachine, []) =
      some (.config (.invalid "[diagrams] section requires kroki_url to be set")) := by
    decide +kernel
  obtain ⟨reason, hreason, hdeeds⟩ :=
    run_failsClosed (s := serverlessMachine) Machine.host haccepted hcode
  have hreason : failure? Machine.host.recorded inputToFile (serverlessMachine, []) = some reason :=
    hreason
  rw [hfailure, Option.some.injEq] at hreason
  refine ⟨haccepted, hcode, hfailure, hdeeds.resolve_right ?_⟩
  rintro ⟨e, path, text, hwrite, -⟩
  rw [← hreason] at hwrite
  exact Failure.noConfusion hwrite

/-- On a described machine the files, the output and the requests are then as they were. -/
theorem run_failsClosed_described {m : Machine}
    (haccepted : readArguments m.environment args = .ok call)
    (hcode : ((run Machine.host args).run m).1.exitCode = 1) :
    let m' := ((run Machine.host args).run m).2
    ∃ reason, failure? Machine.host call m = some reason ∧
      ((∀ e, reason ≠ .write e) →
        m'.files = m.files ∧ m'.output = m.output ∧ m'.requests = m.requests) := by
  intro m'
  have hreads : Machine.host.ReadsLeave fun m => (m.files, m.output, m.requests) :=
    ⟨fun _ => rfl, fun _ _ => rfl, fun _ _ => rfl, fun _ => rfl, fun _ => rfl, fun _ _ => rfl⟩
  obtain ⟨reason, hreason, hkept⟩ := run_fails hreads haccepted hcode
  refine ⟨reason, hreason, fun hwrite => ?_⟩
  obtain hkept | ⟨e, -, -, -, rfl, -⟩ := hkept
  · simpa using hkept
  · exact absurd rfl (hwrite e)

end Programs

end CommandLine

end Broadsheet

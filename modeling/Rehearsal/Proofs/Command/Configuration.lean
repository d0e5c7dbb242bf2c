import Rehearsal.Command.Setup

/-!
# Configurations in layers

What is said on the command line replaces what is written in the file, and what comes out has
to be usable. The file is looked at before that, and has to be usable by itself: `forRun_layers`
says which configurations come through. A root that is replaced counts for nothing else.
-/

namespace Rehearsal
namespace Config

variable {files : Files} {path : Option String} {f : Config}

/-- What is written in a file, usable or not, and the default where there is no file. -/
def written (files : Files) : (path : Option String) → Except Error Config
  | none => .ok .default
  | some path => do
    let text ← (files.readText path).mapError .file
    readYaml text

/-- There is a root, and time to wait for an answer. -/
def IsUsable (c : Config) : Prop := isBlankText c.restUrl = false ∧ 0 < c.requestTimeout

/-- A failure that the command calls one of configuration. -/
def IsFailure (failure : CommandError) : Prop :=
  ∃ message, failure = .config message ∨ failure = .library (.config message)

theorem isUsable_default : IsUsable .default := by
  constructor
  · decide +kernel
  · decide

theorem validate_of_usable (usable : f.IsUsable) : f.validate = .ok f := by
  obtain ⟨root, waits⟩ := usable
  rw [validate, if_neg (by simp [root]), if_neg (Nat.pos_iff_ne_zero.mp waits)]

theorem validate_of_not_usable (unusable : ¬ f.IsUsable) :
    ∃ message, f.validate = .error (.config message) := by
  rw [validate]
  split
  · exact ⟨_, rfl⟩
  next root =>
    split
    · exact ⟨_, rfl⟩
    next waits =>
      have usable : f.IsUsable := ⟨by simpa using root, Nat.pos_iff_ne_zero.mpr waits⟩
      exact absurd usable unusable

/-- What is written has to be usable, and nothing else of it is looked at. -/
theorem base_of_written (given : written files path = .ok f) : base files path = f.validate := by
  cases path with
  | none =>
    obtain rfl := Except.ok.inj given
    exact (validate_of_usable isUsable_default).symm
  | some path =>
    rw [base, load]
    change (files.readText path).mapError .file >>= readYaml = .ok f at given
    cases content : (files.readText path).mapError Error.file with
    | error e =>
      rw [content] at given
      nomatch given
    | ok text =>
      rw [content] at given
      change readYaml text = .ok f at given
      change parseYaml text = f.validate
      rw [parseYaml, given]
      rfl

/-- The configuration for a run comes from what is written, by way of two tests. -/
theorem forRun_of_written (given : written files path = .ok f)
    (restUrl resources : Option String) :
    forRun files path restUrl resources =
      match f.validate with
      | .error e => .error (.library e)
      | .ok _ =>
        if isBlankText (restUrl.getD f.restUrl) then .error (.config "REST url must not be empty")
        else .ok (f.layered restUrl resources) := by
  rw [forRun, base_of_written given]
  by_cases usable : f.IsUsable
  · rw [validate_of_usable usable]
    rfl
  · obtain ⟨message, refused⟩ := validate_of_not_usable usable
    rw [refused]
    rfl

/-- What is written in a file comes through, with what is said on the command line in its
place, exactly if that is usable and the root in the file is not blank. Otherwise there is a
failure of configuration. Of two files that differ in a root that is replaced, neither of them
blank, the same comes out. -/
theorem forRun_layers (given : written files path = .ok f) (restUrl resources : Option String) :
    let e : Config :=
      ⟨f.appUrl, restUrl.getD f.restUrl, resources.or f.resourcesFolder, f.requestTimeout, f.browser⟩
    (forRun files path restUrl resources = .ok e ↔
        isBlankText f.restUrl = false ∧ e.IsUsable) ∧
      (¬ (isBlankText f.restUrl = false ∧ e.IsUsable) →
        ∃ failure, forRun files path restUrl resources = .error failure ∧ IsFailure failure) ∧
      ∀ url root files' path', written files' path' = .ok { f with restUrl := root } →
        isBlankText f.restUrl = false → isBlankText root = false →
        forRun files' path' (some url) resources = forRun files path (some url) resources := by
  intro e
  have layered : f.layered restUrl resources = e := by
    cases resources <;> rfl
  have failure_of_not (fails : ¬ (isBlankText f.restUrl = false ∧ e.IsUsable)) :
      ∃ failure, forRun files path restUrl resources = .error failure ∧ IsFailure failure := by
    rw [forRun_of_written given]
    by_cases usable : f.IsUsable
    · -- the time to wait is the one in the file, so that it is the root that is blank
      have blank : isBlankText (restUrl.getD f.restUrl) = true :=
        eq_true_of_ne_false fun root => fails ⟨usable.1, root, usable.2⟩
      rw [validate_of_usable usable]
      exact ⟨_, if_pos blank, _, .inl rfl⟩
    · obtain ⟨message, refused⟩ := validate_of_not_usable usable
      rw [refused]
      exact ⟨_, rfl, message, .inr rfl⟩
  refine ⟨⟨fun comes => ?_, fun ⟨root, usable⟩ => ?_⟩, failure_of_not, ?_⟩
  · refine Classical.byContradiction fun fails => ?_
    obtain ⟨failure, refused, -⟩ := failure_of_not fails
    nomatch comes.symm.trans refused
  · have usable' : f.IsUsable := ⟨root, usable.2⟩
    rw [forRun_of_written given, validate_of_usable usable', layered]
    exact if_neg (by simpa using usable.1)
  · intro url root files' path' given' filled filled'
    rw [forRun_of_written given, forRun_of_written given']
    by_cases waits : 0 < f.requestTimeout
    · have usable : f.IsUsable := ⟨filled, waits⟩
      have usable' : IsUsable { f with restUrl := root } := ⟨filled', waits⟩
      rw [validate_of_usable usable, validate_of_usable usable']
      rfl
    · have never : f.requestTimeout = 0 := Nat.eq_zero_of_not_pos waits
      simp [validate, filled, filled', never]

/-- Files with a configuration of some settings, and one with a blank root. -/
def sampleFiles : Files where
  node path :=
    if path = "some.yaml" then
      .ok (.file (Text.Utf8.encode
        "rest_url: http://file\nrequest_timeout_ms: 500\nbrowser:\n  headless: false\n".toList))
    else if path = "blank.yaml" then .ok (.file (Text.Utf8.encode "rest_url: ' '\n".toList))
    else .error .notFound

theorem ok_of_toOption {ε α : Type} {result : Except ε α} {x : α}
    (found : result.toOption = some x) : result = .ok x := by
  cases result with
  | error e => nomatch found
  | ok y => exact congrArg Except.ok (Option.some.inj found)

theorem written_some : written sampleFiles (some "some.yaml") = .ok { Config.default with
    restUrl := "http://file", requestTimeout := 500,
    browser := { BrowserOptions.default with headless := false } } :=
  ok_of_toOption (by decide +kernel)

theorem written_blank :
    written sampleFiles (some "blank.yaml") = .ok { Config.default with restUrl := " " } :=
  ok_of_toOption (by decide +kernel)

/-- A root from the command line comes through with the other settings of a file. -/
theorem forRun_of_some_settings :
    written sampleFiles (some "some.yaml") = .ok { Config.default with
        restUrl := "http://file", requestTimeout := 500,
        browser := { BrowserOptions.default with headless := false } } ∧
      forRun sampleFiles (some "some.yaml") (some "http://engine") (some "/f") =
        .ok { Config.default with
          restUrl := "http://engine", resourcesFolder := some "/f", requestTimeout := 500,
          browser := { BrowserOptions.default with headless := false } } := by
  refine ⟨written_some, ?_⟩
  obtain ⟨comes, -, -⟩ := forRun_layers written_some (some "http://engine") (some "/f")
  refine comes.mpr ⟨by decide +kernel, ?_, by decide⟩
  decide +kernel

/-- A blank root in a file is not forgiven where another one is put in its place. -/
theorem forRun_of_blank_root :
    ∃ f, written sampleFiles (some "blank.yaml") = .ok f ∧
      IsUsable { f with restUrl := "http://engine" } ∧
      ∃ failure, forRun sampleFiles (some "blank.yaml") (some "http://engine") none =
        .error failure := by
  refine ⟨_, written_blank, ⟨by decide +kernel, by decide⟩, ?_⟩
  rw [forRun_of_written written_blank]
  exact ⟨_, rfl⟩

end Config
end Rehearsal

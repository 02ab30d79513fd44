/-
# The hooks that read the dep-info scan

`get_relevant_env_vars` and `get_implicit_input_files` both run
`process_implicit_input_files_and_relevant_env_vars` and return one of the two fields it
fills. The scan guards itself: once either field holds something it returns at once, and
when the first scan found nothing it runs rustc again. The caller may call the two hooks
any number of times, in any order.

The scan changes nothing but its two fields (`scan_cases`), and a second scan on its own
result gives that result back (`scan_idempotent`), both when the guard stops it and when
it runs rustc again. So every sequence of hook calls answers as one scan followed by
reading the fields (`callHooks_eq_scan`).

The scan writes nothing else, so a run of the two hooks leaves the answers of
`get_program_id`, `get_build_files`, `get_relevant_arguments` and `get_input_files` as they
were (`callHooks_keep_other_hooks`): the caller may ask them before or after the scan.
-/

import BuildCache.Rust.ProgramId
import BuildCache.Rust.BuildFiles

namespace BuildCache.Rust

open StringList

namespace RustWrapper

/-- A hook that runs the dep-info scan and returns one of the fields it fills. -/
def afterScan {α : Type} (read : RustWrapper → α) (process : Process) (self : RustWrapper) :
    Except String (Option (RustWrapper × α)) :=
  (self.processImplicitInputFilesAndRelevantEnvVars process).map
    (Option.map fun wrapper => (wrapper, read wrapper))

/-- `rust_wrapper_t::get_relevant_env_vars`. -/
def getRelevantEnvVars (process : Process) (self : RustWrapper) :
    Except String (Option (RustWrapper × OrderedMap String)) :=
  afterScan RustWrapper.relevantEnvVars process self

/-- `rust_wrapper_t::get_implicit_input_files`. -/
def getImplicitInputFiles (process : Process) (self : RustWrapper) :
    Except String (Option (RustWrapper × List String)) :=
  afterScan RustWrapper.implicitInputFiles process self

end RustWrapper

/-- The two hooks that read the dep-info scan. -/
inductive ScanHook
  | relevantEnvVars
  | implicitInputFiles
  deriving DecidableEq, Repr

namespace ScanHook

/-- What a hook returns, read off the wrapper. -/
def read : ScanHook → RustWrapper → OrderedMap String ⊕ List String
  | .relevantEnvVars, wrapper => .inl wrapper.relevantEnvVars
  | .implicitInputFiles, wrapper => .inr wrapper.implicitInputFiles

/-- A call of the hook. -/
def call (process : Process) : ScanHook → RustWrapper →
    Except String (Option (RustWrapper × (OrderedMap String ⊕ List String)))
  | .relevantEnvVars, self =>
    (self.getRelevantEnvVars process).map (Option.map fun (wrapper, vars) => (wrapper, .inl vars))
  | .implicitInputFiles, self =>
    (self.getImplicitInputFiles process).map
      (Option.map fun (wrapper, files) => (wrapper, .inr files))

end ScanHook

/-- A sequence of hook calls on one wrapper: the wrapper each call leaves, and the answers.
The run stops at the first exception, and gives `none` once a scan reads past the end of a
list. -/
def callHooks (process : Process) (self : RustWrapper) :
    List ScanHook → Except String (Option (RustWrapper × List (OrderedMap String ⊕ List String)))
  | [] => .ok (some (self, []))
  | hook :: hooks =>
    match hook.call process self with
    | .error message => .error message
    | .ok none => .ok none
    | .ok (some (wrapper, answer)) =>
      (callHooks process wrapper hooks).map
        (Option.map fun (last, answers) => (last, answer :: answers))

namespace RustWrapper

variable {process : Process} {self wrapper : RustWrapper}

theorem call_eq_scan (hook : ScanHook) :
    hook.call process self =
      (self.processImplicitInputFilesAndRelevantEnvVars process).map
        (Option.map fun wrapper => (wrapper, hook.read wrapper)) := by
  cases hook <;> simp only [ScanHook.call, getRelevantEnvVars, getImplicitInputFiles, afterScan] <;>
    cases self.processImplicitInputFilesAndRelevantEnvVars process with
    | error => rfl
    | ok result => cases result <;> rfl

/-- What a scan that returns can have done: stop at its guard, or find nothing in an empty
file, or run rustc successfully and fill the two fields from the `.d` file and the
environment. -/
theorem scan_cases (h : self.processImplicitInputFilesAndRelevantEnvVars process = .ok (some wrapper)) :
    wrapper = self ∨
      (process.runRustc (depInfoArguments process.tempPath self.args)).1 = 0 ∧
        ∃ first lines target files vars,
          split (process.runRustc (depInfoArguments process.tempPath self.args)).2 '\n' =
              first :: lines ∧
            split first ' ' = target :: files ∧ scanLines lines .empty = some vars ∧
            wrapper = { self with
              implicitInputFiles := sort files
              relevantEnvVars := process.environment.foldl cargoStep vars } := by
  unfold processImplicitInputFilesAndRelevantEnvVars at h
  split at h
  · exact .inl (by simpa using h.symm)
  generalize process.runRustc (depInfoArguments process.tempPath self.args) = run at h ⊢
  obtain ⟨code, text⟩ := run
  simp only at h ⊢
  split at h
  · exact absurd h panic_ne_ok
  rename_i hcode
  split at h
  · exact .inl (by simpa using h.symm)
  rename_i first lines hlines
  split at h
  · cases h
  rename_i target files hfirst
  cases hscan : scanLines lines .empty with
  | none => simp [hscan] at h
  | some vars =>
    simp only [hscan, Option.map_some', Except.ok.injEq, Option.some.injEq] at h
    exact .inr ⟨not_not.mp hcode, first, lines, target, files, vars, hlines, hfirst, hscan, h.symm⟩

/-- A second scan on the wrapper a scan left gives that wrapper back: its guard stops it, or
it runs rustc on the same arguments and fills the same values. -/
theorem scan_idempotent
    (h : self.processImplicitInputFilesAndRelevantEnvVars process = .ok (some wrapper)) :
    wrapper.processImplicitInputFilesAndRelevantEnvVars process = .ok (some wrapper) := by
  rcases scan_cases h with rfl | ⟨hcode, first, lines, target, files, vars, hlines, hfirst, hscan, rfl⟩
  · exact h
  unfold processImplicitInputFilesAndRelevantEnvVars
  split
  · rfl
  simp only [hcode, ne_eq, not_true_eq_false, if_false, hlines, hfirst, hscan]
  rfl

end RustWrapper

/-- On a wrapper that its own scan gives back, every sequence of hook calls reads its fields
and leaves it as it is. -/
theorem callHooks_of_scan_fixed {process : Process} {wrapper : RustWrapper}
    (hfixed : wrapper.processImplicitInputFilesAndRelevantEnvVars process = .ok (some wrapper))
    (hooks : List ScanHook) :
    callHooks process wrapper hooks = .ok (some (wrapper, hooks.map (·.read wrapper))) := by
  induction hooks with
  | nil => rfl
  | cons hook hooks ih => simp [callHooks, RustWrapper.call_eq_scan, hfixed, ih, Except.map]

/-- Every sequence of calls of the two hooks answers as one scan followed by reading the
fields, and leaves the wrapper that one scan leaves. -/
theorem callHooks_eq_scan (process : Process) (self : RustWrapper) {hooks : List ScanHook}
    (hhooks : hooks ≠ []) :
    callHooks process self hooks =
      (self.processImplicitInputFilesAndRelevantEnvVars process).map
        (Option.map fun wrapper => (wrapper, hooks.map (·.read wrapper))) := by
  obtain ⟨hook, hooks, rfl⟩ := List.exists_cons_of_ne_nil hhooks
  rw [callHooks, RustWrapper.call_eq_scan]
  cases hscan : self.processImplicitInputFilesAndRelevantEnvVars process with
  | error => rfl
  | ok result =>
    cases result with
    | none => rfl
    | some wrapper =>
      simp [Except.map, callHooks_of_scan_fixed (RustWrapper.scan_idempotent hscan)]

/-- A `.d` file that lists no source and no variable: the scan records nothing, so the second
hook runs rustc again, and still answers as one scan. -/
theorem emptyDepInfo_hooks_agree :
    [ScanHook.relevantEnvVars, ScanHook.implicitInputFiles] ≠ [] ∧
      callHooks (depInfoProcess "out:\n" []) (RustWrapper.create [])
          [ScanHook.relevantEnvVars, ScanHook.implicitInputFiles] =
        ((RustWrapper.create []).processImplicitInputFilesAndRelevantEnvVars
            (depInfoProcess "out:\n" [])).map
          (Option.map fun wrapper => (wrapper,
            [ScanHook.relevantEnvVars, ScanHook.implicitInputFiles].map (·.read wrapper))) :=
  ⟨List.cons_ne_nil _ _, callHooks_eq_scan _ _ (List.cons_ne_nil _ _)⟩

/-! ## What the scan leaves alone -/

namespace RustWrapper

/-- The two wrappers agree outside the two fields the dep-info scan fills. -/
def SameOutsideScan (wrapper self : RustWrapper) : Prop :=
  { wrapper with implicitInputFiles := [], relevantEnvVars := .empty } =
    { self with implicitInputFiles := [], relevantEnvVars := .empty }

theorem SameOutsideScan.refl (self : RustWrapper) : SameOutsideScan self self := rfl

theorem SameOutsideScan.trans {first second third : RustWrapper}
    (h : SameOutsideScan first second) (h' : SameOutsideScan second third) :
    SameOutsideScan first third :=
  Eq.trans h h'

/-- A scan writes its two fields and nothing else. -/
theorem scan_sameOutsideScan {process : Process} {self wrapper : RustWrapper}
    (h : self.processImplicitInputFilesAndRelevantEnvVars process = .ok (some wrapper)) :
    SameOutsideScan wrapper self := by
  rcases scan_cases h with rfl | ⟨-, -, -, -, -, -, -, -, -, rfl⟩ <;> rfl

end RustWrapper

/-- A run of the two hooks writes nothing but the scan's two fields. -/
theorem callHooks_sameOutsideScan {process : Process} {self last : RustWrapper}
    {answers : List (OrderedMap String ⊕ List String)} {hooks : List ScanHook}
    (h : callHooks process self hooks = .ok (some (last, answers))) :
    RustWrapper.SameOutsideScan last self := by
  induction hooks generalizing self answers with
  | nil => cases h; exact .refl _
  | cons hook hooks ih =>
    rw [callHooks, RustWrapper.call_eq_scan] at h
    cases hscan : self.processImplicitInputFilesAndRelevantEnvVars process with
    | error => simp [hscan, Except.map] at h
    | ok result =>
      cases result with
      | none => simp [hscan, Except.map] at h
      | some wrapper =>
        simp only [hscan, Except.map, Option.map_some'] at h
        split at h
        · cases h
        rename_i rest hrest
        cases rest with
        | none => cases h
        | some pair =>
          obtain ⟨next, _⟩ := pair
          simp only [Option.map_some', Except.ok.injEq, Option.some.injEq, Prod.mk.injEq] at h
          obtain ⟨rfl, -⟩ := h
          exact (ih hrest).trans (RustWrapper.scan_sameOutsideScan hscan)

/-- A run of `get_relevant_env_vars` and `get_implicit_input_files` calls leaves the answers
of the other hooks as they were. -/
theorem callHooks_keep_other_hooks {process : Process} {self last : RustWrapper}
    {answers : List (OrderedMap String ⊕ List String)} {hooks : List ScanHook}
    (h : callHooks process self hooks = .ok (some (last, answers)))
    (host : Host) (toolchain : Toolchain) (process' : Process) :
    last.getProgramId host toolchain process' = self.getProgramId host toolchain process' ∧
      last.getBuildFiles host process' = self.getBuildFiles host process' ∧
      last.getRelevantArguments = self.getRelevantArguments ∧
      last.getInputFiles = self.getInputFiles := by
  have hsame := callHooks_sameOutsideScan h
  have hid := congrArg (RustWrapper.getProgramId host toolchain process') hsame
  have hfiles := congrArg (RustWrapper.getBuildFiles host process') hsame
  have hargs := congrArg RustWrapper.getRelevantArguments hsame
  have hinputs := congrArg RustWrapper.getInputFiles hsame
  exact ⟨hid, hfiles, hargs, hinputs⟩

end BuildCache.Rust

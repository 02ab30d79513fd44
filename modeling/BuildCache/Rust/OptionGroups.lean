/-
# The option groups of a rustc command line

The walk of `parse_options` consumes either one token or an option with the raw
token after it. `optionGroups` states that grouping on its own; the walk is a fold
of one step per group (`optionLoop_eq_foldl`), and every later argument about
`parse_options` works group by group. This module also says once, per field, what
one step does to the collected data.
-/

import BuildCache.Rust.ParseOptions

namespace BuildCache.Rust

open StringList

/-- One group of the walk: a token `parse_argument` rejects, an option whose value is
missing, or an option with the value it got (glued or from the next token). -/
inductive OptionGroup
  | failed (token : String)
  | missing (option : String)
  | complete (option value : String)
  deriving DecidableEq, Repr

/-- The groups the walk of `parse_options` forms from the tokens after the program. -/
def optionGroups : List String → List OptionGroup
  | [] => []
  | argument :: rest =>
    let option := parseArgument argument
    if !option.success then .failed option.option :: optionGroups rest
    else if needsArgument option then
      match rest with
      | [] => [.missing option.option]
      | next :: rest' =>
        (if next.isEmpty then .missing option.option else .complete option.option next) ::
          optionGroups rest'
    else .complete option.option option.argument :: optionGroups rest

/-- The walk's own cases, with the parse's verdicts as plain hypotheses: a token the parse
rejects, an option that needs a value at the end of the line or before a token, and an option
that takes none. -/
@[elab_as_elim]
theorem optionGroups_induction {motive : List String → Prop} (nil : motive [])
    (failed : ∀ argument rest, (parseArgument argument).success = false → motive rest →
      motive (argument :: rest))
    (missing : ∀ argument, (parseArgument argument).success = true →
      needsArgument (parseArgument argument) = true → motive [argument])
    (withValue : ∀ argument next rest, (parseArgument argument).success = true →
      needsArgument (parseArgument argument) = true → motive rest → motive (argument :: next :: rest))
    (found : ∀ argument rest, (parseArgument argument).success = true →
      needsArgument (parseArgument argument) = false → motive rest → motive (argument :: rest))
    (arguments : List String) : motive arguments := by
  induction arguments using optionGroups.induct with
  | case1 => exact nil
  | case2 argument rest _ hfail ih => exact failed argument rest (by simpa using hfail) ih
  | case3 argument _ hsuccess hneeds => exact missing argument (by simpa using hsuccess) hneeds
  | case4 argument _ hsuccess hneeds next rest ih =>
    exact withValue argument next rest (by simpa using hsuccess) hneeds ih
  | case5 argument rest _ hsuccess hneeds ih =>
    exact found argument rest (by simpa using hsuccess) (by simpa using hneeds) ih

section Equations

variable {argument next : String} {rest : List String}

theorem optionGroups_cons_of_failed (h : (parseArgument argument).success = false) :
    optionGroups (argument :: rest) = .failed (parseArgument argument).option :: optionGroups rest := by
  rw [optionGroups.eq_def]; simp [h]

theorem optionGroups_singleton_of_needs (h : (parseArgument argument).success = true)
    (hneeds : needsArgument (parseArgument argument) = true) :
    optionGroups [argument] = [.missing (parseArgument argument).option] := by
  simp [optionGroups, h, hneeds]

theorem optionGroups_cons_cons_of_needs (h : (parseArgument argument).success = true)
    (hneeds : needsArgument (parseArgument argument) = true) :
    optionGroups (argument :: next :: rest) =
      (if next.isEmpty then .missing (parseArgument argument).option
        else .complete (parseArgument argument).option next) :: optionGroups rest := by
  simp [optionGroups, h, hneeds]

theorem optionGroups_cons_of_found (h : (parseArgument argument).success = true)
    (hvalue : needsArgument (parseArgument argument) = false) :
    optionGroups (argument :: rest) =
      .complete (parseArgument argument).option (parseArgument argument).argument ::
        optionGroups rest := by
  rw [optionGroups.eq_def]; simp [h, hvalue]

end Equations

namespace Collected

/-- The walk's work on one group. -/
def step (host : Host) (collected : Collected) : OptionGroup → Collected
  | .failed token => collected.addError token
  | .missing option => collected.addError (missingArgument option)
  | .complete option value => collected.classify host (getOptionType option).1 option value

end Collected

theorem type_of_success {argument : String} (h : (parseArgument argument).success) :
    (parseArgument argument).type = (getOptionType (parseArgument argument).option).1 := by
  rw [parseArgument_eq_found h]; rfl

/-- What every group of the walk satisfies: its option re-parses as itself, and an option
that takes a value has a non-empty one. -/
def OptionGroup.WellFormed : OptionGroup → Prop
  | .complete option value => IsOptionWord option ∧ ((getOptionType option).2 = .yes → value ≠ "")
  | _ => True

/-- The value flag of a successful parse is the table's. -/
theorem found_hasArgument {argument : String} (h : (parseArgument argument).success) :
    (parseArgument argument).hasArgument = (getOptionType (parseArgument argument).option).2 := by
  rw [parseArgument_eq_found h]; rfl

/-- Every group of the walk is well formed. -/
theorem wellFormed_of_mem_optionGroups {arguments : List String} {group : OptionGroup}
    (hmem : group ∈ optionGroups arguments) : group.WellFormed := by
  induction arguments using optionGroups_induction with
  | nil => simp [optionGroups] at hmem
  | failed argument rest hfailed ih =>
    rw [optionGroups_cons_of_failed hfailed, List.mem_cons] at hmem
    rcases hmem with rfl | hmem
    · trivial
    · exact ih hmem
  | missing argument hsuccess hneeds =>
    rw [optionGroups_singleton_of_needs hsuccess hneeds, List.mem_singleton] at hmem
    subst hmem; trivial
  | withValue argument next rest hsuccess hneeds ih =>
    rw [optionGroups_cons_cons_of_needs hsuccess hneeds, List.mem_cons] at hmem
    rcases hmem with rfl | hmem
    · by_cases hnext : next.isEmpty
      · simp [hnext, OptionGroup.WellFormed]
      · simp only [hnext, Bool.false_eq_true, ↓reduceIte]
        exact ⟨isOptionWord_option hsuccess, fun _ => by rwa [ne_eq, ← String.isEmpty_iff]⟩
    · exact ih hmem
  | found argument rest hfound hvalue ih =>
    rw [optionGroups_cons_of_found hfound hvalue, List.mem_cons] at hmem
    rcases hmem with rfl | hmem
    · refine ⟨isOptionWord_option hfound, fun hyes => ?_⟩
      rw [← found_hasArgument hfound] at hyes
      rw [ne_eq, ← String.isEmpty_iff]
      simpa [needsArgument, hyes] using hvalue
    · exact ih hmem

/-- The walk is a fold of `Collected.step` over the option groups. -/
theorem optionLoop_eq_foldl (host : Host) (arguments : List String) (collected : Collected) :
    optionLoop host arguments collected =
      (optionGroups arguments).foldl (Collected.step host) collected := by
  induction arguments using optionGroups_induction generalizing collected with
  | nil => rfl
  | failed argument rest hfailed ih =>
    rw [optionGroups_cons_of_failed hfailed, optionLoop.eq_def]
    simp [hfailed, Collected.step, ih]
  | missing argument hsuccess hneeds =>
    rw [optionGroups_singleton_of_needs hsuccess hneeds]
    simp [optionLoop, hsuccess, hneeds, Collected.step]
  | withValue argument next rest hsuccess hneeds ih =>
    rw [optionGroups_cons_cons_of_needs hsuccess hneeds]
    by_cases hnext : next.isEmpty <;>
      simp [optionLoop, hsuccess, hneeds, hnext, Collected.step, ih, type_of_success hsuccess]
  | found argument rest hfound hvalue ih =>
    rw [optionGroups_cons_of_found hfound hvalue, optionLoop.eq_def]
    simp [hfound, hvalue, Collected.step, ih, type_of_success hfound]

/-- `parse_options` as the verification of a fold over the groups. -/
theorem parseOptions_eq (host : Host) (self : RustWrapper) (program : String)
    (arguments : List String) :
    self.parseOptions host (program :: arguments) =
      self.finishParse host ((optionGroups arguments).foldl (Collected.step host)
        { parsedArgs := [program] }) := by
  simp [RustWrapper.parseOptions, optionLoop_eq_foldl]

/-- The options whose tokens `parse_options` leaves out of the relevant arguments. -/
def OptionType.leftOut : OptionType → Bool
  | .ignored | .libraryPath | .outDir | .externLib => true
  | _ => false

/-- What an `--extern` value adds to `externs`. -/
def externFiles (host : Host) (value : String) : List String :=
  let externLib := Collected.secondField (split value '=')
  if externLib.isEmpty then [] else [host.join host.cwd externLib]
/-! ## What one step does, field by field -/

namespace Collected

variable (host : Host) (collected : Collected) (type : OptionType) (arg1 arg2 : String)

/-- Every option goes to the normalised command line. -/
theorem classify_parsedArgs :
    (collected.classify host type arg1 arg2).parsedArgs =
      collected.parsedArgs ++ optionTokens arg1 arg2 := by
  cases type <;> simp only [classify, keep, addError, apply_ite Collected.parsedArgs, ite_self]

/-- An option adds at most one error. -/
theorem classify_errors :
    (collected.classify host type arg1 arg2).errors = collected.errors ∨
      ∃ message, (collected.classify host type arg1 arg2).errors = collected.errors ++ [message] := by
  cases type <;> simp only [classify, keep, addError, apply_ite Collected.errors, ite_self] <;>
    (repeat' split) <;> simp

/-- Only `--extern` adds to the extern crates. -/
theorem classify_externs :
    (collected.classify host type arg1 arg2).externs = collected.externs ++
      (if type = .externLib then externFiles host arg2 else []) := by
  cases type <;> simp only [classify, keep, addError, apply_ite Collected.externs, ite_self, reduceCtorEq,
    if_false, List.append_nil]
  case externLib => simp only [externFiles, if_true]; split <;> simp

/-- An option that adds no error counts for the fingerprint unless its category is left out. -/
theorem classify_relevantArgs
    (h : (collected.classify host type arg1 arg2).errors = collected.errors) :
    (collected.classify host type arg1 arg2).relevantArgs = collected.relevantArgs ++
      (if type.leftOut then [] else optionTokens arg1 arg2) := by
  cases type <;> simp only [classify, keep, addError, apply_ite Collected.errors,
    apply_ite Collected.relevantArgs, OptionType.leftOut, ite_self, if_true, if_false,
    Bool.false_eq_true, List.append_nil] at h ⊢ <;> (try split_ifs at h ⊢) <;> simp_all

/-- Two collected states that agree on everything the walk and the verification read, apart
from the extern crates: they may differ in the normalised tokens and in the value (not the
presence) of the output directory. -/
structure Similar (first second : Collected) : Prop where
  relevantArgs : first.relevantArgs = second.relevantArgs
  staticLibraryPaths : first.staticLibraryPaths = second.staticLibraryPaths
  staticLibraryNames : first.staticLibraryNames = second.staticLibraryNames
  crateTypeRlib : first.crateTypeRlib = second.crateTypeRlib
  crateTypeStaticLib : first.crateTypeStaticLib = second.crateTypeStaticLib
  crateName : first.crateName = second.crateName
  emit : first.emit = second.emit
  extraFilename : first.extraFilename = second.extraFilename
  outputDir : first.outputDir.isEmpty = second.outputDir.isEmpty
  input : first.input = second.input
  errors : first.errors = second.errors

@[refl]
theorem Similar.refl (collected : Collected) : Similar collected collected :=
  ⟨rfl, rfl, rfl, rfl, rfl, rfl, rfl, rfl, rfl, rfl, rfl⟩

theorem Similar.symm {first second : Collected} (h : Similar first second) :
    Similar second first :=
  ⟨h.1.symm, h.2.symm, h.3.symm, h.4.symm, h.5.symm, h.6.symm, h.7.symm, h.8.symm, h.9.symm,
    h.10.symm, h.11.symm⟩

theorem Similar.trans {first second third : Collected} (h₁ : Similar first second)
    (h₂ : Similar second third) : Similar first third :=
  ⟨h₁.1.trans h₂.1, h₁.2.trans h₂.2, h₁.3.trans h₂.3, h₁.4.trans h₂.4, h₁.5.trans h₂.5,
    h₁.6.trans h₂.6, h₁.7.trans h₂.7, h₁.8.trans h₂.8, h₁.9.trans h₂.9, h₁.10.trans h₂.10,
    h₁.11.trans h₂.11⟩

/-- One option does the same to similar states. -/
theorem Similar.classify {first second : Collected} (h : Similar first second) :
    Similar (first.classify host type arg1 arg2) (second.classify host type arg1 arg2) := by
  obtain ⟨hrel, hpaths, hnames, hrlib, hstatic, hname, hemit, hextra, hout, hinput, herr⟩ := h
  cases first; cases second
  simp only at hrel hpaths hnames hrlib hstatic hname hemit hextra hout hinput herr
  subst hrel hpaths hnames hrlib hstatic hname hemit hextra hinput herr
  cases type <;> dsimp only [Collected.classify] <;> (try split_ifs) <;> constructor <;>
    first | rfl | exact hout

end Collected

namespace OptionGroup

/-- The tokens a group writes to the normalised command line. -/
def tokens : OptionGroup → List String
  | .complete option value => optionTokens option value
  | _ => []

/-- The tokens a group adds to the relevant arguments, when it adds no error. -/
def relevantTokens : OptionGroup → List String
  | .complete option value =>
    if (getOptionType option).1.leftOut then [] else optionTokens option value
  | _ => []

/-- The extern crate files a group adds. -/
def externFilesOf (host : Host) : OptionGroup → List String
  | .complete option value =>
    if (getOptionType option).1 = .externLib then externFiles host value else []
  | _ => []

/-- A group with an option and its value, as opposed to a rejected token or a missing value. -/
def isComplete : OptionGroup → Bool
  | .complete _ _ => true
  | _ => false

end OptionGroup

namespace Collected

variable {host : Host} {collected : Collected} {group : OptionGroup}

/-- A group writes its tokens to the normalised command line. -/
theorem step_parsedArgs : (collected.step host group).parsedArgs = collected.parsedArgs ++ group.tokens := by
  cases group <;> simp [step, addError, OptionGroup.tokens, classify_parsedArgs]

/-- A group adds at most one error. -/
theorem step_errors : (collected.step host group).errors = collected.errors ∨
    ∃ message, (collected.step host group).errors = collected.errors ++ [message] := by
  cases group with
  | complete option value => exact classify_errors ..
  | _ => exact .inr ⟨_, rfl⟩

theorem step_errors_length_le : collected.errors.length ≤ (collected.step host group).errors.length := by
  rcases @step_errors host collected group with h | ⟨_, h⟩ <;> simp [h]

theorem step_errors_of_length (h : (collected.step host group).errors.length ≤ collected.errors.length) :
    (collected.step host group).errors = collected.errors := by
  rcases @step_errors host collected group with h' | ⟨_, h'⟩
  · exact h'
  · simp [h'] at h

theorem step_errors_of_incomplete (h : group.isComplete = false) :
    collected.errors.length < (collected.step host group).errors.length := by
  cases group <;> simp_all [step, addError, OptionGroup.isComplete]

/-- Only an `--extern` group adds extern crates. -/
theorem step_externs : (collected.step host group).externs = collected.externs ++ group.externFilesOf host := by
  cases group <;> simp [step, addError, OptionGroup.externFilesOf, classify_externs]

/-- A group that adds no error adds its relevant tokens. -/
theorem step_relevantArgs (h : (collected.step host group).errors = collected.errors) :
    (collected.step host group).relevantArgs = collected.relevantArgs ++ group.relevantTokens := by
  cases group with
  | complete option value => exact classify_relevantArgs _ _ _ _ _ h
  | _ => simp [step, addError] at h

/-- One group does the same to similar states. -/
theorem Similar.step {first second : Collected} (h : Similar first second) (group : OptionGroup) :
    Similar (first.step host group) (second.step host group) := by
  cases group with
  | complete option value => exact h.classify ..
  | _ => exact { h with errors := by simp [Collected.step, addError, h.errors] }

/-! ## What the whole walk does -/

variable (host) (groups : List OptionGroup)

/-- The normalised command line is the tokens of every group in order. -/
theorem foldl_parsedArgs (collected : Collected) :
    (groups.foldl (step host) collected).parsedArgs =
      collected.parsedArgs ++ groups.flatMap OptionGroup.tokens := by
  induction groups generalizing collected with
  | nil => simp
  | cons group groups ih => simp [ih, step_parsedArgs]

/-- The extern crates are those of every `--extern` group in order. -/
theorem foldl_externs (collected : Collected) :
    (groups.foldl (step host) collected).externs =
      collected.externs ++ groups.flatMap (OptionGroup.externFilesOf host) := by
  induction groups generalizing collected with
  | nil => simp
  | cons group groups ih => simp [ih, step_externs]

/-- Errors are never taken back. -/
theorem foldl_errors_length_le (collected : Collected) :
    collected.errors.length ≤ (groups.foldl (step host) collected).errors.length := by
  induction groups generalizing collected with
  | nil => exact le_rfl
  | cons group groups ih => exact step_errors_length_le.trans (ih _)

/-- A rejected token or a missing value always leaves an error behind. -/
theorem foldl_errors_of_incomplete (collected : Collected) {group : OptionGroup}
    (hmem : group ∈ groups) (h : group.isComplete = false) :
    collected.errors.length < (groups.foldl (step host) collected).errors.length := by
  induction groups generalizing collected with
  | nil => simp at hmem
  | cons first groups ih =>
    rcases List.mem_cons.mp hmem with rfl | hmem
    · exact (step_errors_of_incomplete h).trans_le (foldl_errors_length_le host groups _)
    · exact step_errors_length_le.trans_lt (ih _ hmem)

/-- A walk that adds no error collects the relevant tokens of every group. -/
theorem foldl_relevantArgs (collected : Collected)
    (h : (groups.foldl (step host) collected).errors.length ≤ collected.errors.length) :
    (groups.foldl (step host) collected).relevantArgs =
      collected.relevantArgs ++ groups.flatMap OptionGroup.relevantTokens := by
  induction groups generalizing collected with
  | nil => simp
  | cons group groups ih =>
    have hstep : (collected.step host group).errors = collected.errors :=
      step_errors_of_length ((foldl_errors_length_le host groups _).trans h)
    rw [List.foldl_cons, ih _ (hstep ▸ h), step_relevantArgs hstep]
    simp

/-- Similarity survives the whole walk. -/
theorem Similar.foldl {first second : Collected} (h : Similar first second) :
    Similar (groups.foldl (Collected.step host) first) (groups.foldl (Collected.step host) second) := by
  induction groups generalizing first second with
  | nil => exact h
  | cons group groups ih => exact ih (h.step group)

end Collected

namespace RustWrapper

variable {host : Host} {self : RustWrapper} {collected : Collected}

theorem panic_ne_ok {α : Type} {message : String} {result : α} : self.panic message ≠ .ok result :=
  nofun

/-- A check that passes: its condition is false, and the rest of the verification gives the
result. -/
theorem ite_panic_eq_ok {α : Type} {c : Prop} [Decidable c] {message : String}
    {rest : Except String α} {result : α} (h : (if c then self.panic message else rest) = .ok result) :
    ¬ c ∧ rest = .ok result := by
  split at h
  · exact absurd h panic_ne_ok
  · exact ⟨‹_›, h⟩

/-- An accepted walk has no errors and stores what it collected. -/
theorem finishParse_eq_ok {result : RustWrapper × List String}
    (h : self.finishParse host collected = .ok result) :
    collected.errors = [] ∧ result = (self.storeCollected host collected, collected.parsedArgs) := by
  unfold finishParse at h
  obtain ⟨herrors, h⟩ := ite_panic_eq_ok h
  obtain ⟨-, h⟩ := ite_panic_eq_ok h
  obtain ⟨-, h⟩ := ite_panic_eq_ok h
  obtain ⟨-, h⟩ := ite_panic_eq_ok h
  obtain ⟨-, h⟩ := ite_panic_eq_ok h
  obtain ⟨-, h⟩ := ite_panic_eq_ok h
  exact ⟨List.eq_nil_of_length_eq_zero (Nat.eq_zero_of_not_pos herrors), (Except.ok.inj h).symm⟩

/-- A check that fails raises its own panic; otherwise the error comes from the rest. -/
theorem ite_panic_eq_error {α : Type} {c : Prop} [Decidable c] {detail message : String}
    {rest : Except String α} (h : (if c then self.panic detail else rest) = .error message) :
    self.panic detail = (.error message : Except String α) ∨ rest = .error message := by
  split at h
  · exact .inl h
  · exact .inr h

/-- Every error of the verification after the walk is a panic of the wrapper. -/
theorem finishParse_error {message : String} (h : self.finishParse host collected = .error message) :
    ∃ detail, self.panic detail = (.error message : Except String (RustWrapper × List String)) := by
  unfold finishParse at h
  iterate 6 (obtain hpanic | h := ite_panic_eq_error h; · exact ⟨_, hpanic⟩)
  cases h

/-- The data of an accepted `parse_options` that reaches the fingerprint: everything stored
except the output directory. -/
def parsedForHash (wrapper : RustWrapper) :
    List String × String × List String × List String × List String × String × String :=
  (wrapper.relevantArgs, wrapper.input, wrapper.externs, wrapper.staticLibraries, wrapper.emit,
    wrapper.crateName, wrapper.depInfo)

end RustWrapper

/-- Every error of `parse_options` is headed by the crate name the wrapper held before the
call, or `<unknown crate>`: the checks run before the crate name of the command line is
stored, so it never heads them. -/
theorem parseOptions_error_header {host : Host} {self : RustWrapper} {program : String}
    {arguments : List String} {message : String}
    (h : self.parseOptions host (program :: arguments) = .error message) :
    ∃ detail, message =
      join ": " [if self.crateName.isEmpty then "<unknown crate>" else self.crateName, detail] := by
  rw [parseOptions_eq] at h
  obtain ⟨detail, hdetail⟩ := RustWrapper.finishParse_error h
  exact ⟨detail, (Except.error.inj hdetail).symm⟩

/-- The crate name of the command line never heads an error: it is stored after the checks. -/
example : (RustWrapper.create []).parseOptions (Host.sample fun _ => false)
    ["rustc", "--crate-name", "foo", "--crate-type", "lib", "--out-dir", "out", "src/lib.rs"] =
    .error "<unknown crate>: --emit required to cache cargo/rustc compilation" := rfl

/-- Similar walks with the same extern crates, in any order, are accepted alike and hand the
same data to the fingerprint. -/
theorem Collected.Similar.finishParse {host : Host} {self : RustWrapper} {first second : Collected}
    (h : first.Similar second) (hexterns : first.externs.Perm second.externs) :
    (RustWrapper.finishParse host self first).map (RustWrapper.parsedForHash ·.1) =
      (RustWrapper.finishParse host self second).map (RustWrapper.parsedForHash ·.1) := by
  have hstore : (self.storeCollected host first).parsedForHash =
      (self.storeCollected host second).parsedForHash := by
    simp [RustWrapper.parsedForHash, RustWrapper.storeCollected, h.relevantArgs,
      h.staticLibraryNames, h.staticLibraryPaths, h.extraFilename, h.input, h.emit, h.crateName,
      StringList.sort_eq_sort_iff.mpr hexterns]
  simp only [RustWrapper.finishParse, h.errors, h.input, h.emit, h.outputDir, h.crateName, h.crateTypeRlib,
    h.crateTypeStaticLib, apply_ite (Except.map fun x : RustWrapper × List String => x.1.parsedForHash)]
  simp only [Except.map, hstore]

end BuildCache.Rust

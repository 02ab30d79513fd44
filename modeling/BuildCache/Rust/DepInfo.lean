/-
# The dep-info run

`process_implicit_input_files_and_relevant_env_vars` runs rustc a second time to
emit only dependency information and reads the `.d` file it wrote: the first line
lists the source files the crate was compiled from, and `# env-dep:` lines name the
environment variables the compilation read. Then every variable of the process
environment that mentions `CARGO_` is added. The result is computed once per wrapper.

The command line of the second run is the normalised command line with the options
that choose the output removed. The removal walks the tokens with a flag, not the
option groups: `--codegen` is not removed, and a value token spelled like one of the
removed options is taken for one.

The rustc run and the environment are outside the wrapper sources, so they are
parameters (`Process`). The scan can read the field after `# env-dep` when there is
none; the model makes that an outcome of its own (`none`), since the source leaves
it undefined.
-/

import Mathlib.Data.List.Infix
import BuildCache.Rust.Accepted

namespace BuildCache.Rust

open StringList

/-- What the hooks that run rustc get from outside the wrapper. -/
structure Process where
  /-- `tmp_file.path()`, the temporary `.d` file. -/
  tempPath : String
  /-- `run_rustc(args, false)`: the return code, and the text the run left in the temporary
  file. -/
  runRustc : List String → Int × String
  /-- `run_rustc(args, true)`: the return code and what the run printed. -/
  runRustcQuiet : List String → Int × String
  /-- `get_env()`: the entries `NAME=VALUE` of the process environment. -/
  environment : List String

/-! ## The command line of the dep-info run -/

/-- The tokens the filter removes together with the token after them. -/
def removedOption (arg : String) : Bool :=
  arg = "--emit" || arg = "--out-dir" || arg = "-C"

/-- One call of the `std::for_each` lambda, on the flag `to_remove` and the kept tokens. -/
def filterStep : Bool × List String → String → Bool × List String
  | (toRemove, filtered), arg =>
    if toRemove || removedOption arg then (!toRemove, filtered) else (toRemove, filtered ++ [arg])

/-- `filtered_args` after the walk over `m_args`. -/
def filteredArgs (args : List String) : List String :=
  (args.foldl filterStep (false, [])).2

/-- The command line of the dep-info run. -/
def depInfoArguments (tempPath : String) (args : List String) : List String :=
  filteredArgs args ++ ["-o", tempPath, "--emit=dep-info"]

/-- The tokens of a group that the dep-info run should get: none of an `--emit`, `--out-dir`
or `-C` group, all of any other. -/
def OptionGroup.depInfoTokens : OptionGroup → List String
  | .complete option value => if removedOption option then [] else optionTokens option value
  | _ => []

/-- A group the filter keeps has a value not spelled like a removed option. -/
def OptionGroup.filterSafe : OptionGroup → Bool
  | .complete option value => removedOption option || !removedOption value
  | _ => true

/-- The removed options all take a value. -/
theorem hasArgument_of_removedOption {option : String} (h : removedOption option) :
    (getOptionType option).2 = .yes := by
  simp only [removedOption, Bool.or_eq_true, decide_eq_true_eq] at h
  rcases h with (rfl | rfl) | rfl <;> rfl

/-- From a state with the flag down, the filter drops a whole removed group and keeps every
other group of a well-formed walk whose value is safe. -/
theorem foldl_filterStep_tokens {group : OptionGroup} (hwell : group.WellFormed)
    (hsafe : group.filterSafe) (filtered : List String) :
    group.tokens.foldl filterStep (false, filtered) = (false, filtered ++ group.depInfoTokens) := by
  cases group with
  | complete option value =>
    by_cases hremoved : removedOption option
    · have hvalue : value ≠ "" := hwell.2 (hasArgument_of_removedOption hremoved)
      simp [OptionGroup.tokens, OptionGroup.depInfoTokens, optionTokens, isEmpty_eq_false hvalue,
        filterStep, hremoved]
    · simp only [OptionGroup.filterSafe, hremoved, Bool.false_or, Bool.not_eq_true'] at hsafe
      simp only [Bool.not_eq_true] at hremoved
      simp only [OptionGroup.tokens, OptionGroup.depInfoTokens, optionTokens, hremoved,
        Bool.false_eq_true, if_false]
      split_ifs <;> simp [filterStep, hremoved, hsafe]
  | _ => simp [OptionGroup.tokens, OptionGroup.depInfoTokens]

/-- The filter over the normalised command line of a walk. -/
theorem filteredArgs_groups {program : String} {groups : List OptionGroup}
    (hprogram : removedOption program = false) (hwell : ∀ group ∈ groups, group.WellFormed)
    (hsafe : ∀ group ∈ groups, group.filterSafe) :
    filteredArgs (program :: groups.flatMap OptionGroup.tokens) =
      program :: groups.flatMap OptionGroup.depInfoTokens := by
  suffices walk : ∀ filtered, (groups.flatMap OptionGroup.tokens).foldl filterStep (false, filtered) =
      (false, filtered ++ groups.flatMap OptionGroup.depInfoTokens) by
    simp [filteredArgs, filterStep, hprogram, walk]
  induction groups with
  | nil => simp
  | cons group groups ih =>
    intro filtered
    simp only [List.mem_cons, forall_eq_or_imp] at hwell hsafe
    simp [List.foldl_append, foldl_filterStep_tokens hwell.1 hsafe.1, ih hwell.2 hsafe.2]

/-- The dep-info run of an accepted command line gets its groups without the `--emit`,
`--out-dir` and `-C` ones, when neither the program nor a value the filter keeps is spelled
like one of those options. -/
theorem depInfoArguments_of_parseOptions {host : Host} {self wrapper : RustWrapper}
    {program : String} {arguments parsed : List String}
    (h : self.parseOptions host (program :: arguments) = .ok (wrapper, parsed))
    (hprogram : removedOption program = false)
    (hsafe : ∀ group ∈ optionGroups arguments, group.filterSafe) (tempPath : String) :
    depInfoArguments tempPath parsed =
      program :: (optionGroups arguments).flatMap OptionGroup.depInfoTokens ++
        ["-o", tempPath, "--emit=dep-info"] := by
  obtain ⟨-, -, rfl⟩ := RustWrapper.parseOptions_ok h
  rw [depInfoArguments, RustWrapper.collectOptions, Collected.foldl_parsedArgs,
    List.singleton_append, filteredArgs_groups hprogram (fun _ => wellFormed_of_mem_optionGroups) hsafe]

/-- The cargo invocation's dep-info run. -/
theorem cargoArguments_depInfoArguments :
    ∃ wrapper parsed,
      (RustWrapper.create []).parseOptions (Host.sample fun _ => false) ("rustc" :: cargoArguments) =
        .ok (wrapper, parsed) ∧
      removedOption "rustc" = false ∧
      (∀ group ∈ optionGroups cargoArguments, group.filterSafe) ∧
      depInfoArguments "/tmp/dep.d" parsed =
        "rustc" :: (optionGroups cargoArguments).flatMap OptionGroup.depInfoTokens ++
          ["-o", "/tmp/dep.d", "--emit=dep-info"] :=
  have hsafe : ∀ group ∈ optionGroups cargoArguments, group.filterSafe := by decide
  ⟨_, _, rfl, rfl, hsafe, @depInfoArguments_of_parseOptions (Host.sample fun _ => false)
    (RustWrapper.create []) _ "rustc" cargoArguments _ rfl rfl hsafe "/tmp/dep.d"⟩

/-- A command line with a `--codegen` group. -/
def codegenArguments : List String :=
  ["--crate-name", "foo", "--crate-type", "lib", "--emit", "link,metadata", "--out-dir", "out",
    "--codegen", "opt-level=3", "src/lib.rs"]

/-- The `--codegen` group reaches the dep-info run. -/
theorem codegen_kept_for_depInfo :
    ∃ wrapper parsed,
      (RustWrapper.create []).parseOptions (Host.sample fun _ => false) ("rustc" :: codegenArguments) =
        .ok (wrapper, parsed) ∧
      depInfoArguments "/tmp/dep.d" parsed =
        ["rustc", "--crate-name", "foo", "--crate-type", "lib", "--codegen", "opt-level=3",
          "src/lib.rs", "-o", "/tmp/dep.d", "--emit=dep-info"] :=
  ⟨_, _, rfl, by decide⟩

/-! ## Reading the `.d` file -/

/-- `vars[env[0]] = env.size() > 1 ? env[1] : ""` for an entry split at `=`, unless `env[0]` is
one of the `excluded` names. -/
def recordUnless (excluded : List String) (vars : OrderedMap String) (entry : String) :
    OrderedMap String :=
  let env := split entry '='
  if env.headD "" ∈ excluded then vars else vars.assign (env.headD "") (env.getD 1 "")

/-- The body of the env-dep scan at the field after `# env-dep`. -/
def recordEnvDep : OrderedMap String → String → OrderedMap String :=
  recordUnless ["RUSTC_COLOR", "CARGO_MAKEFLAGS"]

/-- The loop over the fields of one line, from its second field on; `none` when
`*(parts_iterator + 1)` is read at the end of the list. -/
def scanParts : List String → OrderedMap String → Option (OrderedMap String)
  | [], vars => some vars
  | part :: rest, vars =>
    if part = "# env-dep" then
      match rest with
      | [] => none
      | next :: _ => scanParts rest (recordEnvDep vars next)
    else scanParts rest vars

/-- The loop over the lines after the first. -/
def scanLines : List String → OrderedMap String → Option (OrderedMap String)
  | [], vars => some vars
  | line :: lines, vars =>
    match split line ':' with
    | [] => scanLines lines vars
    | _ :: parts =>
      match scanParts parts vars with
      | none => none
      | some vars => scanLines lines vars

/-- One iteration of the loop over `get_env()`. -/
def cargoStep (vars : OrderedMap String) (envVar : String) : OrderedMap String :=
  if "CARGO_".data <:+: envVar.data then recordUnless ["CARGO_MAKEFLAGS"] vars envVar else vars

namespace RustWrapper

/-- `process_implicit_input_files_and_relevant_env_vars`. The result is `none` when the scan
reads past the end of a list. -/
def processImplicitInputFilesAndRelevantEnvVars (process : Process) (self : RustWrapper) :
    Except String (Option RustWrapper) :=
  if !self.relevantEnvVars.isEmpty || 0 < self.implicitInputFiles.length then .ok (some self)
  else
    let (returnCode, text) := process.runRustc (depInfoArguments process.tempPath self.args)
    if returnCode ≠ 0 then self.panic ("Failed to call " ++ join "" self.args)
    else
      match split text '\n' with
      | [] => .ok (some self)
      | first :: lines =>
        match split first ' ' with
        | [] => .ok none
        | _ :: implicitInputFiles =>
          .ok ((scanLines lines .empty).map fun vars =>
            { self with
              implicitInputFiles := sort implicitInputFiles
              relevantEnvVars := process.environment.foldl cargoStep vars })

end RustWrapper

/-! ## What a successful run stores -/

/-- A fresh wrapper whose dep-info run succeeds stores, as implicit input files, the sorted
fields after the first of the first line of the `.d` file. -/
theorem implicitInputFiles_of_process {process : Process} {self wrapper : RustWrapper}
    (hvars : self.relevantEnvVars.isEmpty) (hfiles : self.implicitInputFiles = [])
    (h : self.processImplicitInputFilesAndRelevantEnvVars process = .ok (some wrapper)) :
    (process.runRustc (depInfoArguments process.tempPath self.args)).1 = 0 ∧
      wrapper.implicitInputFiles = sort (split ((split
        (process.runRustc (depInfoArguments process.tempPath self.args)).2 '\n').headD "") ' ').tail := by
  unfold RustWrapper.processImplicitInputFilesAndRelevantEnvVars at h
  generalize process.runRustc (depInfoArguments process.tempPath self.args) = run at h ⊢
  obtain ⟨returnCode, text⟩ := run
  simp only [hvars, hfiles, Bool.not_true, List.length_nil, lt_self_iff_false, decide_False,
    Bool.or_false, Bool.false_eq_true, if_false] at h
  split at h
  · exact absurd h RustWrapper.panic_ne_ok
  rename_i hcode
  refine ⟨not_not.mp hcode, ?_⟩
  obtain ⟨first, lines, hlines⟩ := List.exists_cons_of_ne_nil (split_ne_nil text '\n')
  obtain ⟨target, files, hfirst⟩ := List.exists_cons_of_ne_nil (split_ne_nil first ' ')
  simp only [hlines, hfirst] at h ⊢
  cases hscan : scanLines lines .empty with
  | none => simp [hscan] at h
  | some vars =>
    simp only [hscan, Option.map_some', Except.ok.injEq, Option.some.injEq] at h
    rw [← h, List.headD_cons, hfirst, List.tail_cons]

/-- A run of rustc that succeeds and writes `text` to the `.d` file, in an environment. -/
def depInfoProcess (text : String) (environment : List String) : Process where
  tempPath := "/tmp/dep.d"
  runRustc := fun _ => (0, text)
  runRustcQuiet := fun _ => (0, "")
  environment := environment

/-- A `# env-dep:FOO=bar` line is not recorded, although the dependency is. -/
theorem envDep_not_recorded :
    ∃ wrapper, (RustWrapper.create []).processImplicitInputFilesAndRelevantEnvVars
        (depInfoProcess "out: src/lib.rs\n# env-dep:FOO=bar\n" []) = .ok (some wrapper) ∧
      wrapper.implicitInputFiles = ["src/lib.rs"] ∧ wrapper.relevantEnvVars.find? "FOO" = none :=
  ⟨_, rfl, by decide, by decide⟩

/-- `CARGO_PKG_NAME=a=b` is recorded with the value `a`, and `MY_CARGO_HOME` is recorded. -/
theorem cargoVariable_truncated :
    ∃ wrapper, (RustWrapper.create []).processImplicitInputFilesAndRelevantEnvVars
        (depInfoProcess "out: src/lib.rs\n" ["CARGO_PKG_NAME=a=b", "MY_CARGO_HOME=/x"]) =
        .ok (some wrapper) ∧
      wrapper.relevantEnvVars.find? "CARGO_PKG_NAME" = some "a" ∧
      wrapper.relevantEnvVars.find? "MY_CARGO_HOME" = some "/x" :=
  ⟨_, rfl, by decide, by decide⟩

/-! ## What the environment loop records -/

/-- The entries of `get_env()` the loop records under `key`: those that contain `CARGO_` and
whose first `=`-field is `key`, unless `key` is `CARGO_MAKEFLAGS`. -/
def cargoEntryFor (key entry : String) : Bool :=
  decide ("CARGO_".data <:+: entry.data) && (split entry '=').headD "" == key &&
    key != "CARGO_MAKEFLAGS"

theorem find?_cargoStep (vars : OrderedMap String) (entry key : String) :
    (cargoStep vars entry).find? key =
      if cargoEntryFor key entry then some ((split entry '=').getD 1 "") else vars.find? key := by
  unfold cargoStep recordUnless cargoEntryFor
  by_cases hcargo : "CARGO_".data <:+: entry.data
  · simp only [hcargo, if_true, decide_True, Bool.true_and, List.mem_singleton, beq_iff_eq,
      bne_iff_ne, ne_eq, Bool.and_eq_true]
    generalize (split entry '=').headD "" = name
    by_cases hname : name = "CARGO_MAKEFLAGS"
    · subst hname
      by_cases hkey : key = "CARGO_MAKEFLAGS" <;> simp [hkey, eq_comm]
    · by_cases hkey : name = key
      · subst hkey; simp [hname]
      · simp [hname, hkey, Ne.symm hkey]
  · simp [hcargo]

/-- After the loop over `get_env()`, a name holds the second `=`-field of the last entry
recorded under it, or what the dep-info scan left when there is none. -/
theorem find?_foldl_cargoStep (environment : List String) (vars : OrderedMap String)
    (key : String) :
    (environment.foldl cargoStep vars).find? key =
      ((environment.reverse.find? (cargoEntryFor key)).map fun entry =>
        (split entry '=').getD 1 "").or (vars.find? key) := by
  induction environment using List.reverseRecOn with
  | nil => simp
  | append_singleton init entry ih =>
    rw [List.foldl_append, List.foldl_cons, List.foldl_nil, find?_cargoStep, ih,
      List.reverse_append, List.reverse_singleton, List.singleton_append]
    by_cases hentry : cargoEntryFor key entry <;> simp [hentry]

/-! ## Reading past the end of a line -/

/-- The scan of one line's fields reads past their end exactly when the last of them is
`# env-dep`. -/
theorem scanParts_eq_none_iff (parts : List String) (vars : OrderedMap String) :
    scanParts parts vars = none ↔ parts.getLast? = some "# env-dep" := by
  induction parts generalizing vars with
  | nil => simp [scanParts]
  | cons part rest ih =>
    cases rest with
    | nil => by_cases hpart : part = "# env-dep" <;> simp [scanParts, hpart]
    | cons next rest =>
      rw [List.getLast?_cons_cons, scanParts]
      split <;> exact ih _

/-- The scan of the lines after the first reads past the end of a line's fields exactly when
some line has a field after its first and ends in the field `# env-dep`. -/
theorem scanLines_eq_none_iff (lines : List String) (vars : OrderedMap String) :
    scanLines lines vars = none ↔ ∃ line ∈ lines, (split line ':').tail.getLast? = some "# env-dep" := by
  induction lines generalizing vars with
  | nil => simp [scanLines]
  | cons line lines ih =>
    obtain ⟨first, parts, hsplit⟩ := List.exists_cons_of_ne_nil (split_ne_nil line ':')
    simp only [scanLines, hsplit, List.tail_cons, List.mem_cons, exists_eq_or_imp]
    cases hscan : scanParts parts vars with
    | none => simp [(scanParts_eq_none_iff parts vars).mp hscan]
    | some vars' =>
      have hlast : parts.getLast? ≠ some "# env-dep" := fun h =>
        absurd ((scanParts_eq_none_iff parts vars).mpr h) (by simp [hscan])
      simp [ih, hlast]

/-- The dep-info scan of a wrapper reads past the end of a list exactly when the wrapper has
recorded nothing yet, rustc succeeds, and a line after the first of the `.d` file has a field
after its first and ends in the field `# env-dep`. The extraction from the first line never
does. -/
theorem processImplicitInputFilesAndRelevantEnvVars_eq_none_iff {process : Process}
    {self : RustWrapper} :
    self.processImplicitInputFilesAndRelevantEnvVars process = .ok none ↔
      self.relevantEnvVars.isEmpty ∧ self.implicitInputFiles = [] ∧
        (process.runRustc (depInfoArguments process.tempPath self.args)).1 = 0 ∧
        ∃ line ∈ (split (process.runRustc (depInfoArguments process.tempPath self.args)).2 '\n').tail,
          (split line ':').tail.getLast? = some "# env-dep" := by
  unfold RustWrapper.processImplicitInputFilesAndRelevantEnvVars
  generalize process.runRustc (depInfoArguments process.tempPath self.args) = run
  obtain ⟨returnCode, text⟩ := run
  by_cases hfresh : self.relevantEnvVars.isEmpty ∧ self.implicitInputFiles = []
  · obtain ⟨hvars, hfiles⟩ := hfresh
    simp only [hvars, hfiles, Bool.not_true, List.length_nil, lt_self_iff_false, decide_False,
      Bool.or_false, Bool.false_eq_true, if_false, true_and]
    by_cases hcode : returnCode = 0
    · obtain ⟨first, lines, hlines⟩ := List.exists_cons_of_ne_nil (split_ne_nil text '\n')
      obtain ⟨target, files, hfirst⟩ := List.exists_cons_of_ne_nil (split_ne_nil first ' ')
      simp only [hcode, ne_eq, not_true_eq_false, if_false, hlines, hfirst, List.tail_cons,
        true_and, ← scanLines_eq_none_iff lines .empty]
      cases scanLines lines .empty <;> simp
    · simp [hcode, RustWrapper.panic]
  · have hdone : (!self.relevantEnvVars.isEmpty || 0 < self.implicitInputFiles.length) = true := by
      simpa [List.length_pos, imp_iff_not_or] using hfresh
    simp only [hdone, if_true, Except.ok.injEq, reduceCtorEq, false_iff, not_and]
    exact fun hvars hfiles => absurd ⟨hvars, hfiles⟩ hfresh

/-- A `.d` file whose second line ends in the field `# env-dep`. -/
theorem envDepAtLineEnd_reads_past_end :
    (RustWrapper.create []).processImplicitInputFilesAndRelevantEnvVars
      (depInfoProcess "out: src/lib.rs\nsrc/lib.rs:# env-dep\n" []) = .ok none := rfl

end BuildCache.Rust

/-
# What an accepted rustc command line hands to the fingerprint

When `parse_options` accepts a command line, everything it stores is a function of
the option groups of its walk. The relevant arguments are the tokens of every group
that is not ignored, a library path, the output directory or an extern crate, and the
extern crates are the joined paths of the `--extern` groups, sorted. So two accepted
command lines with the same relevant arguments and input files agree on those groups
and on the extern files, and on nothing more: the value of an ignored option such as
`--cfg` is not seen.

Three checks of the walk read their `=`-separated values differently from what the
code's comments and the specification describe. An `--extern` path is only taken when
the value holds exactly one `=`; `-l static=NAME` and `-C incremental=DIR` are tested
on their second field where the first was meant; and the static-library candidates are
built from the search path alone.
-/

import BuildCache.Rust.OptionGroups

namespace BuildCache.Rust

open StringList

namespace RustWrapper

/-- The state the walk of `parse_options` ends in. -/
def collectOptions (host : Host) (program : String) (arguments : List String) : Collected :=
  (optionGroups arguments).foldl (Collected.step host) { parsedArgs := [program] }

variable {host : Host} {self wrapper : RustWrapper} {program : String}
  {arguments parsed : List String}

/-- An accepted command line: the walk found no error, and the wrapper holds what the walk
collected. -/
theorem parseOptions_ok (h : self.parseOptions host (program :: arguments) = .ok (wrapper, parsed)) :
    (collectOptions host program arguments).errors = [] ∧
      wrapper = self.storeCollected host (collectOptions host program arguments) ∧
      parsed = (collectOptions host program arguments).parsedArgs := by
  rw [parseOptions_eq] at h
  obtain ⟨herrors, hresult⟩ := finishParse_eq_ok h
  exact ⟨herrors, congrArg Prod.fst hresult, congrArg Prod.snd hresult⟩

/-- The relevant arguments of an accepted command line are the tokens of its groups that are
not left out. -/
theorem relevantArgs_of_parseOptions
    (h : self.parseOptions host (program :: arguments) = .ok (wrapper, parsed)) :
    wrapper.relevantArgs = (optionGroups arguments).flatMap OptionGroup.relevantTokens := by
  obtain ⟨herrors, rfl, -⟩ := parseOptions_ok h
  unfold collectOptions at herrors
  simpa [storeCollected, collectOptions] using
    Collected.foldl_relevantArgs host _ _ (by simp [herrors])

/-- The extern crates of an accepted command line are the files of its `--extern` groups,
sorted. -/
theorem externs_of_parseOptions
    (h : self.parseOptions host (program :: arguments) = .ok (wrapper, parsed)) :
    wrapper.externs = sort ((optionGroups arguments).flatMap (OptionGroup.externFilesOf host)) := by
  obtain ⟨-, rfl, -⟩ := parseOptions_ok h
  simp [storeCollected, collectOptions, Collected.foldl_externs]

end RustWrapper

/-! ## Equal fingerprint inputs -/

/-- The arguments of a cargo-like command line with one `--cfg` value. -/
def cfgArguments (cfg : String) : List String :=
  ["--crate-name", "foo", "--crate-type", "lib", "--emit", "link,metadata",
    "--out-dir", "out", "--cfg", cfg, "src/lib.rs"]

/-- The `PATH` of an `--extern` value of the form `NAME=PATH`, where neither `NAME` nor `PATH`
holds a `=` and `PATH` is not empty, read off the characters of the value rather than through
the walk's split. -/
def externPath : List Char → Option String
  | [] => none
  | '=' :: path => if '=' ∈ path ∨ path = [] then none else some ⟨path⟩
  | _ :: rest => externPath rest

/-- A name free of `=` is skipped. -/
theorem externPath_append {name : List Char} (rest : List Char) (h : '=' ∉ name) :
    externPath (name ++ rest) = externPath rest := by
  induction name with
  | nil => rfl
  | cons c name ih =>
    have hc : c ≠ '=' := fun hc => h (hc ▸ List.mem_cons_self _ _)
    simp [externPath, hc, ih (fun hmem => h (List.mem_cons_of_mem _ hmem))]

/-- `externPath` finds the path exactly of the values of that form. -/
theorem externPath_eq_some_iff {chars : List Char} {path : String} :
    externPath chars = some path ↔
      ∃ name, chars = name ++ '=' :: path.data ∧ '=' ∉ name ∧ '=' ∉ path.data ∧ path ≠ "" := by
  constructor
  · intro h
    induction chars with
    | nil => simp [externPath] at h
    | cons c rest ih =>
      by_cases hc : c = '='
      · subst hc
        simp only [externPath] at h
        split_ifs at h with hpath
        obtain rfl := (Option.some.inj h)
        simp only [not_or] at hpath
        exact ⟨[], rfl, List.not_mem_nil _, hpath.1, fun hnil => hpath.2 (congrArg String.data hnil)⟩
      · simp only [externPath, hc] at h
        obtain ⟨name, rfl, hname, hrest⟩ := ih h
        exact ⟨c :: name, rfl, List.not_mem_cons_of_ne_of_not_mem (Ne.symm hc) hname, hrest⟩
  · rintro ⟨name, rfl, hname, hpath, hne⟩
    have hdata : path.data ≠ [] := fun hnil => hne (String.ext hnil)
    simp [externPath_append _ hname, externPath, hpath, hdata]

/-- The extern file of a value, as the walk computes it, is the one `externPath` reads: the
walk takes a path exactly when it holds no `=`. -/
theorem externFiles_eq (host : Host) (value : String) :
    externFiles host value = (externPath value.data).toList.map (host.join host.cwd) := by
  unfold externFiles Collected.secondField
  cases hpath : externPath value.data with
  | some path =>
    obtain ⟨name, hvalue, hname, hpath', hne⟩ := externPath_eq_some_iff.mp hpath
    have hsplit : split value '=' = [⟨name⟩, path] := split_eq_pair_iff.mpr ⟨hvalue, hname, hpath'⟩
    simp [hsplit, isEmpty_eq_false hne]
  | none =>
    split_ifs with hlength
    · obtain ⟨first, second, hsplit⟩ := List.length_eq_two.mp hlength
      obtain ⟨hvalue, hfirst, hsecond⟩ := split_eq_pair_iff.mp hsplit
      have hempty : second = "" := by
        by_contra hne
        rw [hvalue, externPath_append _ hfirst] at hpath
        have hdata : second.data ≠ [] := fun hnil => hne (String.ext hnil)
        simp [externPath, hsecond, hdata] at hpath
      simp [hsplit, hempty]
      decide
    · rfl

/-- The file an `--extern` group names when its value has the form `externPath` reads, joined
to the working directory. -/
def specExternFiles (host : Host) : OptionGroup → List String
  | .complete option value =>
    if option = "--extern" then (externPath value.data).toList.map (host.join host.cwd) else []
  | _ => []

theorem externFilesOf_eq_specExternFiles (host : Host) (group : OptionGroup) :
    group.externFilesOf host = specExternFiles host group := by
  cases group with
  | complete option value =>
    simp only [OptionGroup.externFilesOf, specExternFiles, getOptionType_externLib, externFiles_eq]
  | _ => rfl

/-- The input files of an accepted command line: the input, then the files of its `--extern`
groups whose value holds exactly one `=` with a non-empty path after it, sorted. -/
theorem getInputFiles_of_parseOptions {host : Host} {self wrapper : RustWrapper}
    {program : String} {arguments parsed : List String}
    (h : self.parseOptions host (program :: arguments) = .ok (wrapper, parsed)) :
    wrapper.getInputFiles =
      wrapper.input :: sort ((optionGroups arguments).flatMap (specExternFiles host)) := by
  have hfiles : OptionGroup.externFilesOf host = specExternFiles host :=
    funext (externFilesOf_eq_specExternFiles host)
  rw [RustWrapper.getInputFiles, RustWrapper.externs_of_parseOptions h, hfiles]

/-- The cargo invocation's extern crate is hashed. -/
theorem cargoArguments_inputFiles :
    ∃ wrapper parsed,
      (RustWrapper.create []).parseOptions (Host.sample fun _ => false) ("rustc" :: cargoArguments) =
        .ok (wrapper, parsed) ∧
      wrapper.getInputFiles = wrapper.input :: sort ((optionGroups cargoArguments).flatMap
        (specExternFiles (Host.sample fun _ => false))) :=
  ⟨_, _, rfl, @getInputFiles_of_parseOptions (Host.sample fun _ => false) (RustWrapper.create []) _ "rustc"
    cargoArguments _ rfl⟩

/-- A command line with an `--extern` path that holds a `=`. -/
def externEqualsCommandLine : List String :=
  ["rustc", "--crate-name", "foo", "--crate-type", "lib", "--emit", "link,metadata",
    "--out-dir", "out", "--extern", "foo=a=b/libfoo.rlib", "src/lib.rs"]

/-- The crate `a=b/libfoo.rlib` is accepted and not among the input files. -/
theorem externEquals_not_hashed :
    ∃ wrapper parsed,
      (RustWrapper.create []).parseOptions (Host.sample fun _ => true) externEqualsCommandLine =
        .ok (wrapper, parsed) ∧
      wrapper.getInputFiles = ["src/lib.rs"] :=
  ⟨_, _, rfl, rfl⟩

/-! ## Static libraries and incremental builds -/

/-- A command line that links the static library `foo` from `/libs`. -/
def staticLibraryCommandLine : List String :=
  ["rustc", "--crate-name", "foo", "--crate-type", "lib", "--emit", "link,metadata",
    "--out-dir", "out", "-L", "/libs", "-l", "static=foo", "src/lib.rs"]

/-- Even when every file exists, no static library is found for `-l static=foo`. -/
theorem staticLibrary_not_found :
    ((RustWrapper.create staticLibraryCommandLine).resolveArgs (Host.sample fun _ => true)).map
      RustWrapper.staticLibraries = .ok [] :=
  rfl

/-- A command line that asks for an incremental build. -/
def incrementalCommandLine : List String :=
  ["rustc", "--crate-name", "foo", "--crate-type", "lib", "--emit", "link,metadata",
    "--out-dir", "out", "-C", "incremental=/tmp/inc", "src/lib.rs"]

/-- `-C incremental=/tmp/inc` is accepted. -/
theorem incremental_accepted :
    ∃ wrapper parsed, (RustWrapper.create incrementalCommandLine).parseOptions
      (Host.sample fun _ => false) incrementalCommandLine = .ok (wrapper, parsed) :=
  ⟨_, _, rfl⟩

end BuildCache.Rust

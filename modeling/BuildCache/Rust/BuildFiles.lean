/-
# The files a rustc run is expected to write

`rust_wrapper_t::get_build_files` asks rustc which library files the command line
builds (`--print file-names`), adds the `.rmeta` file next to every `.rlib` when
metadata is emitted and the dep-info file when dependency information is emitted,
and expects every one of them, required, in the output directory. The library file
names are taken from rustc's output as printed: every line of it, the empty text after
a final newline included, names an expected file.
-/

import BuildCache.Rust.DepInfo

namespace BuildCache.Rust

open StringList

/-- The loop over the printed files that collects the `.rmeta` file of every `.rlib`, each
once. -/
def metadataStep (host : Host) (metadata : List String) (file : String) : List String :=
  if host.getExtension file = ".rlib" then
    let rmeta := host.changeExtension file ".rmeta"
    if rmeta ∈ metadata then metadata else metadata ++ [rmeta]
  else metadata

/-- The `files` of `get_build_files` after the run printed `printed`. -/
def buildFileNames (host : Host) (self : RustWrapper) (printed : String) : List String :=
  let files := split printed '\n'
  let files := if "metadata" ∈ self.emit then files ++ files.foldl (metadataStep host) [] else files
  if "dep-info" ∈ self.emit then files ++ [self.depInfo] else files

namespace RustWrapper

/-- `rust_wrapper_t::get_build_files`. -/
def getBuildFiles (host : Host) (process : Process) (self : RustWrapper) :
    Except String (OrderedMap ExpectedFile) :=
  let args := self.args ++ ["--print", "file-names"]
  let (returnCode, printed) := process.runRustcQuiet args
  if returnCode ≠ 0 then self.panic ("Failed to call " ++ join "" args)
  else
    .ok ((buildFileNames host self printed).foldl
      (fun buildFiles file => buildFiles.assign file ⟨host.join self.outputDir file, true⟩) .empty)

/-- `get_build_files` with the run's outcome read off by projections. -/
theorem getBuildFiles_eq (host : Host) (process : Process) (self : RustWrapper) :
    self.getBuildFiles host process =
      if (process.runRustcQuiet (self.args ++ ["--print", "file-names"])).1 ≠ 0 then
        self.panic ("Failed to call " ++ join "" (self.args ++ ["--print", "file-names"]))
      else .ok ((buildFileNames host self
          (process.runRustcQuiet (self.args ++ ["--print", "file-names"])).2).foldl
        (fun buildFiles file => buildFiles.assign file ⟨host.join self.outputDir file, true⟩) .empty) :=
  rfl

end RustWrapper

/-- One printed file adds the `.rmeta` file of an `.rlib`, unless it is there already. -/
theorem mem_metadataStep (host : Host) (metadata : List String) (file rmeta : String) :
    rmeta ∈ metadataStep host metadata file ↔
      rmeta ∈ metadata ∨ (host.getExtension file = ".rlib" ∧ rmeta = host.changeExtension file ".rmeta") := by
  simp only [metadataStep]
  split_ifs with hrlib hseen
  · exact ⟨.inl, fun h => h.elim id fun ⟨_, hrmeta⟩ => hrmeta ▸ hseen⟩
  · simp [hrlib, or_comm]
  · simp [hrlib]

/-- The `.rmeta` files collected are those of the printed `.rlib` files. -/
theorem mem_foldl_metadataStep (host : Host) (files : List String) (metadata : List String)
    (rmeta : String) :
    rmeta ∈ files.foldl (metadataStep host) metadata ↔
      rmeta ∈ metadata ∨
        ∃ rlib ∈ files, host.getExtension rlib = ".rlib" ∧ rmeta = host.changeExtension rlib ".rmeta" := by
  induction files generalizing metadata with
  | nil => simp
  | cons file files ih =>
    rw [List.foldl_cons, ih, mem_metadataStep]
    simp only [List.mem_cons, exists_eq_or_imp, or_assoc]

/-- When `get_build_files` returns, rustc printed its file names and every expected file is
required in the output directory; the expected files are exactly the printed ones, the
`.rmeta` file of each printed `.rlib` when metadata is emitted, and the dep-info file when
dependency information is emitted. -/
theorem getBuildFiles_find? {host : Host} {process : Process} {self : RustWrapper}
    {buildFiles : OrderedMap ExpectedFile}
    (h : self.getBuildFiles host process = .ok buildFiles) (file : String) :
    (process.runRustcQuiet (self.args ++ ["--print", "file-names"])).1 = 0 ∧
      buildFiles.find? file =
        if file ∈ split (process.runRustcQuiet (self.args ++ ["--print", "file-names"])).2 '\n' ∨
            ("metadata" ∈ self.emit ∧
              ∃ rlib ∈ split (process.runRustcQuiet (self.args ++ ["--print", "file-names"])).2 '\n',
                host.getExtension rlib = ".rlib" ∧ file = host.changeExtension rlib ".rmeta") ∨
            ("dep-info" ∈ self.emit ∧ file = self.depInfo)
        then some ⟨host.join self.outputDir file, true⟩ else none := by
  rw [RustWrapper.getBuildFiles_eq] at h
  generalize process.runRustcQuiet (self.args ++ ["--print", "file-names"]) = run at h ⊢
  split at h
  · exact absurd h RustWrapper.panic_ne_ok
  rename_i hcode
  refine ⟨not_not.mp hcode, ?_⟩
  rw [← Except.ok.inj h, OrderedMap.find?_foldl_assign, OrderedMap.find?_empty]
  congr 1
  unfold buildFileNames
  by_cases hmeta : "metadata" ∈ self.emit <;> by_cases hdep : "dep-info" ∈ self.emit <;>
    simp [hmeta, hdep, mem_foldl_metadataStep]

/-- A wrapper after an accepted command line that emits metadata and dependency
information. -/
def emittingWrapper : RustWrapper :=
  { unresolvedArgs := [], args := ["rustc"], emit := ["dep-info", "link", "metadata"],
    depInfo := "foo.d", outputDir := "out" }

/-- Runs of rustc that succeed, the quiet one printing `printed`. -/
def printingProcess (printed : String) : Process where
  tempPath := "/tmp/dep.d"
  runRustc := fun _ => (0, "")
  runRustcQuiet := fun _ => (0, printed)
  environment := []

/-- The `.rmeta` file of a printed `.rlib` is expected in the output directory. -/
theorem rlibMetadata_expected :
    ∃ buildFiles, emittingWrapper.getBuildFiles (Host.sample fun _ => true)
        (printingProcess "libfoo.rlib\n") = .ok buildFiles ∧
      buildFiles.find? "libfoo.rmeta" = some ⟨"out/libfoo.rmeta", true⟩ :=
  ⟨_, rfl, (@getBuildFiles_find? (Host.sample fun _ => true) (printingProcess "libfoo.rlib\n")
    emittingWrapper _ rfl "libfoo.rmeta").2.trans (by decide)⟩

end BuildCache.Rust

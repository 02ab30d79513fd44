/-
# The program id of a rustc command line

`rust_wrapper_t::get_program_id` hashes what decides the compiler's behaviour beyond the
command line: the format version, rustc's version text, the working directory, every
shared library of the compiler's sysroot, and the name and contents of every static
library that `parse_options` found. The hash function itself (`hasher_t`) is not among the
sources, so the id is modelled by the sequence of inputs the hasher is fed: the id is
`hasher.final()` of that sequence, and two equal sequences give equal ids.

The shared libraries come from a directory walk, whose order the file system decides;
`get_compiler_shared_libraries` sorts them, so the id does not depend on that order
(`getProgramId_walk_order`).
-/

import BuildCache.Rust.DepInfo

namespace BuildCache.Rust

open StringList

/-- An entry `file::walk_directory` lists. -/
structure FileInfo where
  path : String
  isDir : Bool
  deriving DecidableEq, Repr

/-- The helpers `get_program_id` calls beyond the host's: the path and directory helpers of
`file_utils`, `strip`, and the platform. -/
structure Toolchain where
  /-- `file::append_path(path, append)`. -/
  appendPath : String → String → String
  /-- `file::walk_directory(path, file::filter_t::include_extension(ext))`: the entries under
  the directory with the extension, in the order the walk meets them. -/
  walkDirectory : String → String → List FileInfo
  /-- `strip(str)`. -/
  strip : String → String
  /-- Whether `_WIN32` is defined. -/
  windows : Bool

/-- What `hasher_t` is fed: a string, or a file's contents as
`update_from_file_deterministic` reads them. -/
inductive HashInput
  | text (value : String)
  | fileContents (path : String)
  deriving DecidableEq, Repr

/-- `HASH_VERSION`. -/
def hashVersion : String := "1"

/-- `get_compiler_shared_libraries`: the files of the sysroot's library directory with the
platform's shared-library extension, sorted. -/
def getCompilerSharedLibraries (toolchain : Toolchain) (sysroot : String) : List String :=
  let libDir := toolchain.appendPath sysroot (if toolchain.windows then "bin" else "lib")
  let dllExt := if toolchain.windows then ".dll" else ".so"
  sort (((toolchain.walkDirectory libDir dllExt).filter fun info => !info.isDir).map (·.path))

namespace RustWrapper

/-- `rust_wrapper_t::get_program_id`, up to the hash: the inputs the hasher is fed, in order.
`m_args[0]` is the program, which `parse_options` puts first. -/
def getProgramId (host : Host) (toolchain : Toolchain) (process : Process) (self : RustWrapper) :
    Except String (List HashInput) :=
  let version := process.runRustcQuiet [self.args.headD "", "-vV"]
  if version.1 ≠ 0 then self.panic "Unable to get the compiler version information string."
  else
    let sysrootRun := process.runRustcQuiet [self.args.headD "", "--print=sysroot"]
    if sysrootRun.1 ≠ 0 then self.panic "Unable to get the compiler sysroot."
    else
      let sysroot := toolchain.strip sysrootRun.2
      .ok ([.text hashVersion, .text version.2, .text host.cwd] ++
        (getCompilerSharedLibraries toolchain sysroot).map .fileContents ++
        self.staticLibraries.flatMap fun library => [.text library, .fileContents library])

end RustWrapper

/-- The shared libraries do not depend on the order in which the walk lists the directory. -/
theorem getCompilerSharedLibraries_walk_order {toolchain : Toolchain}
    {walk : String → String → List FileInfo}
    (hwalk : ∀ directory extension,
      (walk directory extension).Perm (toolchain.walkDirectory directory extension))
    (sysroot : String) :
    getCompilerSharedLibraries { toolchain with walkDirectory := walk } sysroot =
      getCompilerSharedLibraries toolchain sysroot :=
  sort_eq_sort_iff.mpr (((hwalk _ _).filter _).map _)

/-- The program id does not depend on the order in which the walk of the compiler's library
directory lists its files. -/
theorem getProgramId_walk_order {host : Host} {toolchain : Toolchain} {process : Process}
    {self : RustWrapper} {walk : String → String → List FileInfo}
    (hwalk : ∀ directory extension,
      (walk directory extension).Perm (toolchain.walkDirectory directory extension)) :
    RustWrapper.getProgramId host { toolchain with walkDirectory := walk } process self =
      RustWrapper.getProgramId host toolchain process self := by
  unfold RustWrapper.getProgramId
  simp only [getCompilerSharedLibraries_walk_order hwalk]

/-- A toolchain whose walk lists `listing` for every directory. -/
def listingToolchain (listing : List FileInfo) : Toolchain where
  appendPath := fun path append => path ++ "/" ++ append
  walkDirectory := fun _ _ => listing
  strip := id
  windows := false

/-- A sysroot library directory with two libraries and a subdirectory. -/
def sysrootListing : List FileInfo :=
  [⟨"/sysroot/lib/b.so", false⟩, ⟨"/sysroot/lib/a.so", false⟩, ⟨"/sysroot/lib/c.so", true⟩]

/-- Listing the directory the other way round gives the same program id. -/
theorem reversedListing_walk_order :
    (∀ directory extension : String,
      sysrootListing.reverse.Perm ((listingToolchain sysrootListing).walkDirectory directory extension)) ∧
      RustWrapper.getProgramId (Host.sample fun _ => false)
          { listingToolchain sysrootListing with walkDirectory := fun _ _ => sysrootListing.reverse }
          (depInfoProcess "" []) (RustWrapper.create ["rustc"]) =
        RustWrapper.getProgramId (Host.sample fun _ => false) (listingToolchain sysrootListing)
          (depInfoProcess "" []) (RustWrapper.create ["rustc"]) :=
  ⟨fun _ _ => List.reverse_perm _, getProgramId_walk_order fun _ _ => List.reverse_perm _⟩

end BuildCache.Rust

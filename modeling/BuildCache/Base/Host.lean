/-
# The host the wrappers run on

The wrappers call file-system helpers (`file::get_cwd`, `file::file_exists`,
`file::join`, `file::get_extension`, `file::change_extension`, `file::get_file_part`)
and the Unicode helper `lower_case`. Their code is not among the wrapper sources and
the specification treats them as external collaborators, so the model takes them as
one record of parameters: every theorem about a wrapper holds for every host.

The files a wrapper expects the tool to write are reported as `expected_file_t`
records, kept here with the host since every wrapper uses them.
-/

import Mathlib.Data.String.Basic

namespace BuildCache

/-- The helpers of `file_utils` and `unicode_utils` that the wrappers call. -/
structure Host where
  /-- `file::get_cwd()`. -/
  cwd : String
  /-- `file::file_exists(path)`. -/
  fileExists : String → Bool
  /-- `file::join(directory, path)`. -/
  join : String → String → String
  /-- `file::get_extension(path)`. -/
  getExtension : String → String
  /-- `file::change_extension(path, new_ext)`. -/
  changeExtension : String → String → String
  /-- `file::get_file_part(path, include_ext)`. -/
  getFilePart : String → Bool → String
  /-- `lower_case(str)`. -/
  lowerCase : String → String

/-- A host for worked examples: working directory `/work`, paths joined with `/`, the
extension of a path taken from its last `.` on, and `present` deciding which files exist. -/
def Host.sample (present : String → Bool) : Host where
  cwd := "/work"
  fileExists := present
  join := fun directory path => directory ++ "/" ++ path
  getExtension := fun path =>
    match path.data.reverse.span (· != '.') with
    | (extension, '.' :: _) => ⟨'.' :: extension.reverse⟩
    | _ => ""
  changeExtension := fun path extension =>
    match path.data.reverse.span (· != '.') with
    | (_, '.' :: stem) => ⟨stem.reverse⟩ ++ extension
    | _ => path ++ extension
  getFilePart := fun path _ => path
  lowerCase := id

/-- `expected_file_t`: where a file the tool writes is to be found, and whether it must
exist. -/
structure ExpectedFile where
  path : String
  required : Bool
  deriving DecidableEq, Repr

end BuildCache

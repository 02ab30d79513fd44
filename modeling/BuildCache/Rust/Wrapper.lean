/-
# The rust wrapper object

`rust_wrapper_t` keeps the command line it inherits from `program_wrapper_t` and
the data that `parse_options` and the dep-info scan compute once and the other
hooks read back. The hooks that only return a field are modelled here; the ones
with real work have modules of their own.
-/

import BuildCache.Base.Host
import BuildCache.Rust.Options

namespace BuildCache.Rust

/-- The fields of `rust_wrapper_t`, with `m_unresolved_args` and `m_args` of
`program_wrapper_t`. -/
structure RustWrapper where
  unresolvedArgs : List String
  args : List String := []
  relevantArgs : List String := []
  relevantEnvVars : OrderedMap String := .empty
  implicitInputFiles : List String := []
  outputDir : String := ""
  externs : List String := []
  staticLibraries : List String := []
  crateName : String := ""
  depInfo : String := ""
  emit : List String := []
  input : String := ""

namespace RustWrapper

/-- The constructor: a fresh wrapper for a command line. -/
def create (args : List String) : RustWrapper := { unresolvedArgs := args }

/-- `rust_wrapper_t::panic`: the message, prefixed by the crate name the object holds. -/
def panic {α : Type} (self : RustWrapper) (message : String) : Except String α :=
  let header := if self.crateName.isEmpty then "<unknown crate>" else self.crateName
  .error (StringList.join ": " [header, message])

/-- `rust_wrapper_t::can_handle_command`. -/
def canHandleCommand (host : Host) (realPath : String) : Bool :=
  host.lowerCase (host.getFilePart realPath false) = "rustc"

/-- `rust_wrapper_t::get_capabilities`. -/
def getCapabilities : List String := ["force_direct_mode", "hard_links"]

/-- `rust_wrapper_t::get_relevant_arguments`. -/
def getRelevantArguments (self : RustWrapper) : List String := self.relevantArgs

/-- `rust_wrapper_t::get_input_files`: the source file, then the extern crates. -/
def getInputFiles (self : RustWrapper) : List String := self.input :: self.externs

end RustWrapper

end BuildCache.Rust

/-
# The Cppcheck wrapper

`cppcheck_wrapper_t` splits the command line into argument pairs
`(arg, opt, equal_separator)`: a two-part option (`-D -U -I -i -j -l`) takes the next
token as its value, a token that starts with one takes the rest as its value, a token
with `=` is split at the first `=`, and anything else stands alone. Every pair must name
a supported option or a source file. The other hooks print the pairs back with
`arg_pair_t::get`: the preprocessor command drops `--output-file`, the relevant
arguments drop the preprocessor options `-I`, `-D`, `-U` and the output file's name,
and the build files are read from `--output-file`.

`get_program_id` and `preprocess_source` only run the tool and pass its output on; the
run (`sys::run`) is a parameter.
-/

import Mathlib.Data.List.Infix
import BuildCache.Base.OrderedMap
import BuildCache.Base.Host

namespace BuildCache.Cppcheck

open StringList

/-- `cppcheck_wrapper_t::arg_pair_t`. -/
structure ArgPair where
  arg : String
  opt : String
  equalSeparator : Bool
  deriving DecidableEq, Repr

/-- `arg_pair_t::get`: the tokens a pair prints back to. -/
def ArgPair.get (pair : ArgPair) : List String :=
  if pair.equalSeparator then [pair.arg ++ "=" ++ pair.opt]
  else if pair.opt.isEmpty then [pair.arg] else [pair.arg, pair.opt]

/-- `is_source_file`. -/
def isSourceFile (host : Host) (arg : String) : Bool :=
  host.lowerCase (host.getExtension arg) ∈
    [".cpp", ".cxx", ".cc", ".c++", ".c", ".ipp", ".ixx", ".tpp", ".txx"]

/-- `is_two_part_arg`: the options whose value may stand in the next token. -/
def isTwoPartArg (arg : String) : Bool :=
  arg ∈ ["-D", "-U", "-I", "-i", "-j", "-l"]

/-- The `supported` set of `is_supported_arg`. -/
def supportedArgs : List String :=
  ["--check-level", "--check-library", "--disable", "-D", "--enable", "--error-exitcode",
    "--exitcode-suppressions", "--file-filter", "-f", "--force", "--fsigned-char",
    "--funsigned-char", "-I", "-i", "--inconclusive", "--inline-suppr", "--language",
    "--max-configs", "--max-ctu-depth", "--output-file", "--platform", "--premium", "-q",
    "--quiet", "-rp", "--relative-paths", "--rule", "--showtime", "--std", "--suppress",
    "--template", "--template-location", "-U", "-v", "--verbose", "--xml"]

/-- `is_supported_arg`. -/
def isSupportedArg (host : Host) (arg : String) : Bool :=
  arg ∈ supportedArgs || isSourceFile host arg

/-- The pair of one token that does not take the next one: a glued two-part option, a split
at the first `=`, or a plain argument. -/
def splitSingle (arg : String) : ArgPair :=
  let firstTwoChars : String := ⟨arg.data.take 2⟩
  if isTwoPartArg firstTwoChars then ⟨firstTwoChars, ⟨arg.data.drop 2⟩, false⟩
  else
    match arg.data.span (· != '=') with
    | (before, _ :: after) => ⟨⟨before⟩, ⟨after⟩, true⟩
    | (_, []) => ⟨arg, "", false⟩

/-- The pair-splitting loop of `parse_arguments`, over the tokens after the program. -/
def splitPairs : List String → List ArgPair
  | [] => []
  | [arg] => [splitSingle arg]
  | arg :: next :: rest =>
    if isTwoPartArg arg then ⟨arg, next, false⟩ :: splitPairs rest
    else splitSingle arg :: splitPairs (next :: rest)

example : splitPairs ["-DFOO=bar", "--enable=all", "-I", "include", "src.cpp"] =
    [⟨"-D", "FOO=bar", false⟩, ⟨"--enable", "all", true⟩, ⟨"-I", "include", false⟩,
      ⟨"src.cpp", "", false⟩] := by decide

/-- The fields of `cppcheck_wrapper_t`, with `m_args` of `program_wrapper_t`. -/
structure CppcheckWrapper where
  args : List String
  argPairs : List ArgPair := []

namespace CppcheckWrapper

/-- A wrapper for a resolved command line. -/
def create (args : List String) : CppcheckWrapper := { args := args }

/-- `cppcheck_wrapper_t::parse_arguments`: the pairs of the tokens after the program, or the
error for the first pair that names no supported argument. -/
def parseArguments (host : Host) (self : CppcheckWrapper) : Except String CppcheckWrapper :=
  let argPairs := splitPairs self.args.tail
  match argPairs.find? fun pair => !isSupportedArg host pair.arg with
  | some pair => .error ("Unsupported argument: " ++ join " " pair.get)
  | none => .ok { self with argPairs := argPairs }

/-- `cppcheck_wrapper_t::make_preprocessor_cmd`; `none` when `m_args[0]` does not exist. -/
def makePreprocessorCmd (self : CppcheckWrapper) : Option (List String) :=
  self.args.head?.map fun program =>
    program :: (self.argPairs.filter fun pair => pair.arg ≠ "--output-file").flatMap ArgPair.get ++
      ["-E"]

/-- `cppcheck_wrapper_t::can_handle_command`. -/
def canHandleCommand (host : Host) (realPath : String) : Bool :=
  decide ("cppcheck".data <:+: (host.lowerCase (host.getFilePart realPath false)).data)

/-- One iteration of the loop of `get_build_files`. The flag `found_output_file` is never
set, so it stays `false` for every pair. -/
def buildFileStep (foundOutputFile : Bool) (files : OrderedMap ExpectedFile) (pair : ArgPair) :
    Except String (OrderedMap ExpectedFile) :=
  if pair.arg = "--output-file" then
    if foundOutputFile then .error "Only a single output file can be specified."
    else .ok (files.assign "output_file" ⟨pair.opt, true⟩)
  else .ok files

/-- `cppcheck_wrapper_t::get_build_files`. -/
def getBuildFiles (self : CppcheckWrapper) : Except String (OrderedMap ExpectedFile) :=
  self.argPairs.foldlM (buildFileStep false) .empty

/-- The tokens of one pair in `get_relevant_arguments`. -/
def relevantTokens (pair : ArgPair) : List String :=
  if pair.arg = "-I" ∨ pair.arg = "-D" ∨ pair.arg = "-U" then []
  else if pair.arg = "--output-file" then [pair.arg]
  else pair.get

/-- `cppcheck_wrapper_t::get_relevant_arguments`: the program's file part, with the default
`include_ext`, then the tokens of every pair. -/
def getRelevantArguments (host : Host) (self : CppcheckWrapper) : Option (List String) :=
  self.args.head?.map fun program =>
    host.getFilePart program true :: self.argPairs.flatMap relevantTokens

/-- `cppcheck_wrapper_t::get_relevant_env_vars`. -/
def getRelevantEnvVars : OrderedMap String := .empty

/-- `HASH_VERSION`. -/
def hashVersion : String := "1"

/-- `cppcheck_wrapper_t::get_program_id`: the format version followed by what
`cppcheck --version` prints; `run` is `sys::run`, and `none` stands for a missing
`m_args[0]`. -/
def getProgramId (run : List String → Int × String) (self : CppcheckWrapper) :
    Option (Except String String) :=
  self.args.head?.map fun program =>
    let result := run [program, "--version"]
    if result.1 ≠ 0 then .error "Unable to get the Cppcheck version information string."
    else .ok (hashVersion ++ result.2)

/-- `cppcheck_wrapper_t::preprocess_source`: what the preprocessor command prints. -/
def preprocessSource (run : List String → Int × String) (self : CppcheckWrapper) :
    Option (Except String String) :=
  self.makePreprocessorCmd.map fun args =>
    let result := run args
    if result.1 ≠ 0 then .error "Preprocessing command was unsuccessful."
    else .ok result.2

end CppcheckWrapper

end BuildCache.Cppcheck

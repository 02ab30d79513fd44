/-
# Parsing and verifying a rustc command line

`rust_wrapper_t::parse_options` walks the command line once. Each token is
classified by `parse_argument`; an option that needs a value and has none glued
to it takes the next token raw. The normalised tokens go to `parsed_args`, the
tokens that decide the output go to `relevant_args`, and every problem is
collected in `errors` rather than reported at once. After the walk the collected
data is verified, the static-library candidates are probed, and the data is moved
into the wrapper.

The walk is modelled as the source writes it (`optionLoop`). Its grouping of tokens
into options with their values (`optionGroups`) is then stated separately, and
`optionLoop_eq_foldl` shows that the walk is a fold of one step per group.
-/

import BuildCache.Rust.Wrapper

namespace BuildCache.Rust

open StringList

/-- `parsed_args += arg_1; if (!arg_2.empty()) parsed_args += arg_2;`: the tokens of an
option with its value. -/
def optionTokens (arg1 arg2 : String) : List String :=
  if arg2.isEmpty then [arg1] else [arg1, arg2]

/-- The local variables of `parse_options` that the walk updates. -/
structure Collected where
  parsedArgs : List String
  relevantArgs : List String := []
  staticLibraryPaths : List String := []
  staticLibraryNames : List String := []
  crateTypeRlib : Bool := false
  crateTypeStaticLib : Bool := false
  crateName : String := ""
  emit : List String := []
  extraFilename : String := ""
  outputDir : String := ""
  externs : List String := []
  input : String := ""
  errors : List String := []

namespace Collected

/-- `errors += message`. -/
def addError (collected : Collected) (message : String) : Collected :=
  { collected with errors := collected.errors ++ [message] }

/-- The end of a `switch` case that `break`s: the option counts for the fingerprint. -/
def keep (collected : Collected) (arg1 arg2 : String) : Collected :=
  { collected with relevantArgs := collected.relevantArgs ++ optionTokens arg1 arg2 }

/-- The `=`-separated value of `-L`, `-l`, `-C` and `--extern`: its second field when there
are exactly two, and empty otherwise. -/
def secondField (fields : List String) : String :=
  if fields.length = 2 then fields.getD 1 "" else ""

/-- The body of the walk for one option `arg1` of category `type` with value `arg2`. -/
def classify (host : Host) (collected : Collected) (type : OptionType) (arg1 arg2 : String) :
    Collected :=
  let collected := { collected with parsedArgs := collected.parsedArgs ++ optionTokens arg1 arg2 }
  match type with
  | .unsupported => collected.addError ("Unsupported compiler argument " ++ arg1)
  | .unhandled => collected.addError ("Unhandled compiler argument " ++ arg1)
  | .ignored => collected
  | .libraryPath =>
    let argument := split arg2 '='
    let kind := secondField argument
    if kind.isEmpty ∨ kind = "native" ∨ kind = "all" then
      { collected with staticLibraryPaths := collected.staticLibraryPaths ++ [argument.getLastD ""] }
    else collected
  | .library =>
    let argument := split arg2 '='
    let kind := secondField argument
    let collected := if kind = "static" then
      { collected with staticLibraryNames := collected.staticLibraryNames ++ [argument.getLastD ""] }
      else collected
    collected.keep arg1 arg2
  | .crateType =>
    if collected.crateTypeRlib && collected.crateTypeStaticLib then collected.keep arg1 arg2
    else
      let crateTypes := split arg2 ','
      let collected := { collected with
        crateTypeRlib := collected.crateTypeRlib || "lib" ∈ crateTypes || "rlib" ∈ crateTypes
        crateTypeStaticLib := collected.crateTypeStaticLib || "staticlib" ∈ crateTypes }
      collected.keep arg1 arg2
  | .crateName => { collected with crateName := arg2 }.keep arg1 arg2
  | .emit =>
    if collected.emit.length ≠ 0 then collected.addError "Cannot handle more than one --emit"
    else { collected with emit := sort (collected.emit ++ split arg2 ',') }.keep arg1 arg2
  | .codeGen =>
    let argument := split arg2 '='
    let option := secondField argument
    let extraFilename := argument.headD "" = "extra-filename"
    let collected := if extraFilename then
      { collected with extraFilename := argument.getLastD "" } else collected
    if extraFilename ∧ collected.extraFilename.isEmpty then
      collected.addError "Can't cache extra-filename"
    else if option = "incremental" then collected.addError "Can't cache incremental builds"
    else collected.keep arg1 arg2
  | .outDir => { collected with outputDir := arg2 }
  | .target =>
    if host.getExtension arg2 = "json" ∨ host.fileExists (arg2 ++ ".json") then
      collected.addError ("Can't cache target " ++ arg2)
    else collected.keep arg1 arg2
  | .externLib =>
    let externLib := secondField (split arg2 '=')
    if externLib.isEmpty then collected
    else { collected with externs := collected.externs ++ [host.join host.cwd externLib] }
  | .responseFile => collected.addError ("Cannot handle response file " ++ arg1)
  | .path =>
    if !collected.input.isEmpty then collected.addError ("Cannot handle multiple inputs " ++ arg1)
    else { collected with input := arg1 }.keep arg1 arg2

end Collected

/-- The error for an option whose value is missing. -/
def missingArgument (option : String) : String :=
  "Can't parse arguments, missing argument for " ++ option

/-- The `for` loop of `parse_options` over the tokens after the program. -/
def optionLoop (host : Host) : List String → Collected → Collected
  | [], collected => collected
  | argument :: rest, collected =>
    let option := parseArgument argument
    if !option.success then optionLoop host rest (collected.addError option.option)
    else if needsArgument option then
      match rest with
      | [] => optionLoop host [] (collected.addError (missingArgument option.option))
      | next :: rest' =>
        if next.isEmpty then optionLoop host rest' (collected.addError (missingArgument option.option))
        else optionLoop host rest' (collected.classify host option.type option.option next)
    else optionLoop host rest (collected.classify host option.type option.option option.argument)

/-- The emit kinds that caching requires, and the ones it allows. -/
def requiredEmit : List String := ["link", "metadata"]

def allowedEmit : List String := ["dep-info", "link", "metadata"]

/-- The static-library candidates of every `-l` name in every `-L` directory that exist. -/
def staticLibraryCandidates (host : Host) (names paths : List String) : List String :=
  names.flatMap fun _ => paths.flatMap fun path =>
    [join "" ["lib", path, ".a"], join "" [path, ".lib"], join "" [path, ".a"]].filter host.fileExists

namespace RustWrapper

/-- The preparation of the static libraries and the dep-info name, and the move of the
collected data into the object. -/
def storeCollected (host : Host) (self : RustWrapper) (collected : Collected) : RustWrapper :=
  let staticLibraries :=
    staticLibraryCandidates host collected.staticLibraryNames collected.staticLibraryPaths
  let depInfo := if "dep-info" ∈ collected.emit then
    join "" [collected.crateName, collected.extraFilename, ".d"] else ""
  { self with
    outputDir := collected.outputDir
    externs := sort collected.externs
    staticLibraries := sort staticLibraries
    crateName := collected.crateName
    depInfo := depInfo
    emit := collected.emit
    input := collected.input
    relevantArgs := collected.relevantArgs }

/-- The verification after the walk; on success the collected data goes into the object and
the normalised command line is returned. -/
def finishParse (host : Host) (self : RustWrapper) (collected : Collected) :
    Except String (RustWrapper × List String) :=
  if 0 < collected.errors.length then self.panic (join "\n" collected.errors)
  else if collected.input.isEmpty then
    self.panic "input file required to cache cargo/rustc compilation"
  else if collected.emit.length = 0 ∨ !includes collected.emit requiredEmit ∨
      !includes allowedEmit collected.emit then
    self.panic "--emit required to cache cargo/rustc compilation"
  else if collected.outputDir.isEmpty then
    self.panic "--output-dir required to cache cargo/rustc compilation"
  else if collected.crateName.isEmpty then
    self.panic "--crate-name required to cache cargo/rustc compilation"
  else if !collected.crateTypeRlib && !collected.crateTypeStaticLib then
    self.panic "--crate-type required to cache cargo/rustc compilation"
  else .ok (self.storeCollected host collected, collected.parsedArgs)

/-- `rust_wrapper_t::parse_options`. The program is `unresolved_arguments[0]`, which every
caller supplies. -/
def parseOptions (host : Host) (self : RustWrapper) (unresolvedArguments : List String) :
    Except String (RustWrapper × List String) :=
  self.finishParse host
    (optionLoop host unresolvedArguments.tail { parsedArgs := [unresolvedArguments.headD ""] })

/-- `rust_wrapper_t::resolve_args`: `m_args = parse_options(m_unresolved_args)`. -/
def resolveArgs (host : Host) (self : RustWrapper) : Except String RustWrapper := do
  let (wrapper, parsedArgs) ← self.parseOptions host self.unresolvedArgs
  return { wrapper with args := parsedArgs }

end RustWrapper

/-- The arguments cargo passes to rustc for a library crate with one dependency. -/
def cargoArguments : List String :=
  ["--crate-name", "foo", "--edition=2021", "src/lib.rs", "--crate-type", "lib",
    "--emit=dep-info,metadata,link", "-C", "embed-bitcode=no", "-C", "debuginfo=2", "--cfg",
    "feature=\"default\"", "-C", "metadata=5d2ad9c6", "-C", "extra-filename=-5d2ad9c6",
    "--out-dir", "/work/target/debug/deps", "-L", "dependency=/work/target/debug/deps",
    "--extern", "serde=/work/target/debug/deps/libserde-1.rlib", "--cap-lints", "warn"]

end BuildCache.Rust

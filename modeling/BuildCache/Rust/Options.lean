/-
# Classifying a single rustc argument

`parse_argument` matches one command-line token against the regular expression
`argument_parser` and looks the option it finds up in the `option_specification`
table of `get_option_type`. The regular expression is modelled as its five
alternatives, tried in order as ECMAScript alternation does, each returning the
capture groups that `std::regex_match` fills when it matches the whole token.
-/

import BuildCache.Base.OrderedMap

namespace BuildCache.Rust

/-- `option_type_t`: how the wrapper treats an option of rustc. -/
inductive OptionType
  | unsupported
  | unhandled
  | ignored
  | libraryPath
  | library
  | crateType
  | crateName
  | emit
  | codeGen
  | outDir
  | target
  | externLib
  | responseFile
  | path
  deriving DecidableEq, Repr

/-- `has_argument_t`: whether an option takes a value. -/
inductive HasArgument
  | no
  | yes
  deriving DecidableEq, Repr

/-- `option_info_t`. On failure only `option` is meaningful; the category fields, which the
source leaves uninitialised there, get fixed placeholder values. -/
structure OptionInfo where
  success : Bool := false
  type : OptionType := .path
  hasArgument : HasArgument := .no
  option : String
  argument : String := ""
  deriving DecidableEq, Repr

/-- The static `option_specification` table of `get_option_type`. -/
def optionSpecification : List (String × OptionType × HasArgument) :=
  [("-", .unsupported, .no), ("-h", .unhandled, .no), ("--help", .unhandled, .no),
    ("--cfg", .ignored, .yes), ("-L", .libraryPath, .yes), ("-l", .library, .yes),
    ("--crate-type", .crateType, .yes), ("--crate-name", .crateName, .yes),
    ("--edition", .ignored, .yes), ("--emit", .emit, .yes), ("--print", .unhandled, .yes),
    ("-g", .codeGen, .no), ("-O", .codeGen, .no), ("-o", .unsupported, .yes),
    ("--out-dir", .outDir, .yes), ("--explain", .unhandled, .yes), ("--test", .unhandled, .no),
    ("--target", .target, .yes), ("-A", .ignored, .yes), ("--allow", .ignored, .yes),
    ("-W", .ignored, .yes), ("--warn", .ignored, .yes), ("--force-warn", .ignored, .yes),
    ("-D", .ignored, .yes), ("--deny", .ignored, .yes), ("-F", .ignored, .yes),
    ("--forbid", .ignored, .yes), ("--cap-lints", .ignored, .yes), ("-C", .codeGen, .yes),
    ("--codegen", .codeGen, .yes), ("-V", .unhandled, .no), ("--version", .unhandled, .no),
    ("-v", .ignored, .no), ("--verbose", .ignored, .no), ("--extern", .externLib, .yes),
    ("--sysroot", .unsupported, .yes), ("--error-format", .ignored, .yes),
    ("--json", .ignored, .yes), ("--color", .ignored, .yes),
    ("--diagnostic-width", .ignored, .yes), ("--remap-path-prefix", .unsupported, .yes),
    ("@", .responseFile, .no)]

/-- `get_option_type`: the table entry of an option, and `(PATH, NO)` for anything else. -/
def getOptionType (argument : String) : OptionType × HasArgument :=
  (optionSpecification.lookup argument).getD (.path, .no)

/-- `needs_argument`: the option takes a value and none was glued to it. -/
def needsArgument (optionInfo : OptionInfo) : Bool :=
  optionInfo.hasArgument = .yes && optionInfo.argument.isEmpty

/-- `\s` of the regular expression in the "C" locale. -/
def isSpace (c : Char) : Bool :=
  c == ' ' || c == '\t' || c == '\n' || c == '\x0B' || c == '\x0C' || c == '\r'

/-- No character of the list is white space: `\S*`. -/
def noSpace (chars : List Char) : Bool := chars.all fun c => !isSpace c

/-- The letters of the short options in `-[hLlgOoAWDFCVv]`. -/
def shortOptionLetters : List Char := ['h', 'L', 'l', 'g', 'O', 'o', 'A', 'W', 'D', 'F', 'C', 'V', 'v']

/-- The sub-matches `match[1]` to `match[8]` of `argument_parser`; a group that takes no
part in the match is empty. -/
structure ArgumentGroups where
  longOption : String := ""
  longArgument : String := ""
  shortOption : String := ""
  shortArgument : String := ""
  dash : String := ""
  responseFile : String := ""
  responseArgument : String := ""
  path : String := ""
  deriving DecidableEq, Repr

/-- The class `[^\s=]` of the long option's name. -/
def nameChar (c : Char) : Bool := c != '=' && !isSpace c

/-- The alternative `(--[^\s=]*)=(\S*)`. -/
def longOptionMatch : List Char → Option ArgumentGroups
  | '-' :: '-' :: rest =>
    match rest.span nameChar with
    | (name, '=' :: value) =>
      if noSpace value then some { longOption := ⟨'-' :: '-' :: name⟩, longArgument := ⟨value⟩ }
      else none
    | _ => none
  | _ => none

/-- The alternative `(-[hLlgOoAWDFCVv])(\S*)`. -/
def shortOptionMatch : List Char → Option ArgumentGroups
  | '-' :: letter :: rest =>
    if letter ∈ shortOptionLetters ∧ noSpace rest then
      some { shortOption := ⟨['-', letter]⟩, shortArgument := ⟨rest⟩ }
    else none
  | _ => none

/-- The alternative `(-)`. -/
def dashMatch : List Char → Option ArgumentGroups
  | ['-'] => some { dash := "-" }
  | _ => none

/-- The alternative `(@)(\S+)`. -/
def responseFileMatch : List Char → Option ArgumentGroups
  | '@' :: rest =>
    if rest ≠ [] ∧ noSpace rest then some { responseFile := "@", responseArgument := ⟨rest⟩ }
    else none
  | _ => none

/-- The alternative `(\S+)`. -/
def pathMatch (chars : List Char) : Option ArgumentGroups :=
  if chars ≠ [] ∧ noSpace chars then some { path := ⟨chars⟩ } else none

/-- `std::regex_match(argument, match, argument_parser)`: the first alternative that matches
the whole token decides the capture groups. -/
def argumentParser (argument : String) : Option ArgumentGroups :=
  longOptionMatch argument.data <|> shortOptionMatch argument.data <|> dashMatch argument.data <|>
    responseFileMatch argument.data <|> pathMatch argument.data

/-- A successful parse: the option found, its glued value and its table entry. -/
def OptionInfo.found (option argument : String) : OptionInfo :=
  { success := true, type := (getOptionType option).1, hasArgument := (getOptionType option).2,
    option := option, argument := argument }

/-- `parse_argument`. -/
def parseArgument (argument : String) : OptionInfo :=
  match argumentParser argument with
  | none => { option := argument }
  | some groups =>
    if groups.longOption.length ≠ 0 then .found groups.longOption groups.longArgument
    else if groups.shortOption.length ≠ 0 then .found groups.shortOption groups.shortArgument
    else if groups.dash.length ≠ 0 then .found "-" ""
    else if groups.responseFile.length ≠ 0 then .found groups.responseFile groups.responseArgument
    else if groups.path.length ≠ 0 then .found groups.path ""
    else { option := argument }

example : parseArgument "--emit=link,metadata" = .found "--emit" "link,metadata" := by decide
example : parseArgument "-Cincremental=x" = .found "-C" "incremental=x" := by decide
example : parseArgument "--crate-name" = .found "--crate-name" "" := by decide
example : parseArgument "-" = .found "-" "" := by decide
example : parseArgument "@args" = .found "@" "args" := by decide
example : parseArgument "a b" = { option := "a b" } := by decide

/-! ## The option table -/

/-- `get_option_type` answers from its table, or with `(PATH, NO)`. -/
theorem getOptionType_mem (option : String) :
    (option, getOptionType option) ∈ optionSpecification ∨ getOptionType option = (.path, .no) := by
  unfold getOptionType
  cases h : optionSpecification.lookup option with
  | none => exact .inr rfl
  | some entry =>
    obtain ⟨front, back, htable, -⟩ := List.lookup_eq_some_iff.mp h
    exact .inl (by rw [Option.getD_some, htable]; simp)

/-- Every category but `PATH` comes from the table. -/
theorem mem_optionSpecification {option : String} (h : (getOptionType option).1 ≠ .path) :
    (option, getOptionType option) ∈ optionSpecification :=
  (getOptionType_mem option).resolve_right fun hpath => h (by rw [hpath])

/-- Only `--out-dir` is an `OUT_DIR` option, and it takes a value. -/
theorem getOptionType_outDir {option : String} (h : (getOptionType option).1 = .outDir) :
    option = "--out-dir" ∧ (getOptionType option).2 = .yes := by
  have hmem := mem_optionSpecification (by rw [h]; exact nofun)
  generalize getOptionType option = entry at h hmem ⊢
  obtain ⟨kind, has⟩ := entry
  subst h
  simpa [optionSpecification] using hmem

/-- Only `--extern` is an `EXTERN` option. -/
theorem getOptionType_externLib {option : String} :
    (getOptionType option).1 = .externLib ↔ option = "--extern" := by
  refine ⟨fun h => ?_, fun h => h ▸ rfl⟩
  have hmem := mem_optionSpecification (by rw [h]; exact nofun)
  generalize getOptionType option = entry at h hmem
  obtain ⟨kind, has⟩ := entry
  subst h
  simp only [optionSpecification] at hmem
  simp_all

/-! ## What each alternative matches -/

theorem longOptionMatch_eq_some {chars : List Char} {groups : ArgumentGroups}
    (h : longOptionMatch chars = some groups) :
    ∃ name value, chars = '-' :: '-' :: (name ++ '=' :: value) ∧ (∀ c ∈ name, nameChar c) ∧
      noSpace value ∧ groups = { longOption := ⟨'-' :: '-' :: name⟩, longArgument := ⟨value⟩ } := by
  unfold longOptionMatch at h
  split at h
  · rename_i rest
    split at h
    · rename_i name value hspan
      split at h
      · cases h
        rw [List.span_eq_take_drop, Prod.mk.injEq] at hspan
        refine ⟨name, value, ?_, fun c hc => ?_, ‹_›, rfl⟩
        · rw [← hspan.1, ← hspan.2, List.takeWhile_append_dropWhile]
        · exact List.mem_takeWhile_imp (hspan.1 ▸ hc)
      · cases h
    · cases h
  · cases h

theorem shortOptionMatch_eq_some {chars : List Char} {groups : ArgumentGroups}
    (h : shortOptionMatch chars = some groups) :
    ∃ letter rest, chars = '-' :: letter :: rest ∧ letter ∈ shortOptionLetters ∧ noSpace rest ∧
      groups = { shortOption := ⟨['-', letter]⟩, shortArgument := ⟨rest⟩ } := by
  unfold shortOptionMatch at h
  split at h
  · split_ifs at h with hl
    cases h
    exact ⟨_, _, rfl, hl.1, hl.2, rfl⟩
  · cases h

theorem dashMatch_eq_some {chars : List Char} {groups : ArgumentGroups}
    (h : dashMatch chars = some groups) : chars = ['-'] ∧ groups = { dash := "-" } := by
  unfold dashMatch at h
  split at h
  · cases h; exact ⟨rfl, rfl⟩
  · cases h

theorem responseFileMatch_eq_some {chars : List Char} {groups : ArgumentGroups}
    (h : responseFileMatch chars = some groups) :
    ∃ rest, chars = '@' :: rest ∧ rest ≠ [] ∧ noSpace rest ∧
      groups = { responseFile := "@", responseArgument := ⟨rest⟩ } := by
  unfold responseFileMatch at h
  split at h
  · split_ifs at h with hrest
    cases h
    exact ⟨_, rfl, hrest.1, hrest.2, rfl⟩
  · cases h

theorem pathMatch_eq_some {chars : List Char} {groups : ArgumentGroups}
    (h : pathMatch chars = some groups) :
    chars ≠ [] ∧ noSpace chars ∧ groups = { path := ⟨chars⟩ } := by
  unfold pathMatch at h
  split_ifs at h with hc
  cases h
  exact ⟨hc.1, hc.2, rfl⟩

/-! ## The result of `parse_argument` -/

/-- The parse of a token that no earlier alternative claims: the whole token is the
option. -/
theorem parseArgument_of_pathMatch {chars : List Char}
    (hlong : longOptionMatch chars = none) (hshort : shortOptionMatch chars = none)
    (hdash : dashMatch chars = none) (hresponse : responseFileMatch chars = none)
    (hne : chars ≠ []) (hspace : noSpace chars) :
    parseArgument ⟨chars⟩ = .found ⟨chars⟩ "" := by
  have hlen : (String.mk chars).length ≠ 0 := by simpa [String.length] using hne
  simp [parseArgument, argumentParser, hlong, hshort, hdash, hresponse, pathMatch, hne, hspace,
    hlen, HOrElse.hOrElse, OrElse.orElse, Option.orElse]

private theorem orElse_some {α : Type} (a : α) (rest : Unit → Option α) :
    (some a <|> rest ()) = some a := rfl

private theorem orElse_none {α : Type} (rest : Option α) : (none <|> rest) = rest := rfl

/-- A successful parse finds the whole token, a long option, a short option or `@`. -/
theorem parseArgument_cases {argument : String} (h : (parseArgument argument).success) :
    parseArgument argument = .found argument "" ∨
    (∃ name value, (∀ c ∈ name, nameChar c) ∧
      parseArgument argument = .found ⟨'-' :: '-' :: name⟩ value) ∨
    (∃ letter value, letter ∈ shortOptionLetters ∧
      parseArgument argument = .found ⟨['-', letter]⟩ value) ∨
    (∃ value, parseArgument argument = .found "@" value) := by
  obtain ⟨chars⟩ := argument
  cases hlong : longOptionMatch chars with
  | some groups =>
    obtain ⟨name, value, -, hname, -, rfl⟩ := longOptionMatch_eq_some hlong
    refine .inr (.inl ⟨name, ⟨value⟩, hname, ?_⟩)
    simp [parseArgument, argumentParser, hlong, orElse_some, String.length]
  | none =>
  cases hshort : shortOptionMatch chars with
  | some groups =>
    obtain ⟨letter, rest, -, hletter, -, rfl⟩ := shortOptionMatch_eq_some hshort
    refine .inr (.inr (.inl ⟨letter, ⟨rest⟩, hletter, ?_⟩))
    simp [parseArgument, argumentParser, hlong, hshort, orElse_none, orElse_some, String.length]
  | none =>
  cases hdash : dashMatch chars with
  | some groups =>
    obtain ⟨rfl, rfl⟩ := dashMatch_eq_some hdash
    exact .inl rfl
  | none =>
  cases hresponse : responseFileMatch chars with
  | some groups =>
    obtain ⟨rest, -, -, -, rfl⟩ := responseFileMatch_eq_some hresponse
    refine .inr (.inr (.inr ⟨⟨rest⟩, ?_⟩))
    simp [parseArgument, argumentParser, hlong, hshort, hdash, hresponse, orElse_none, orElse_some,
      String.length]
  | none =>
  cases hpath : pathMatch chars with
  | some groups =>
    obtain ⟨hne, hspace, -⟩ := pathMatch_eq_some hpath
    exact .inl (parseArgument_of_pathMatch hlong hshort hdash hresponse hne hspace)
  | none =>
    simp [parseArgument, argumentParser, hlong, hshort, hdash, hresponse, hpath, orElse_none] at h

/-- A token that re-parses as itself with nothing glued on: the form in which
`parse_options` writes an option into its normalised command line. -/
def IsOptionWord (option : String) : Prop := parseArgument option = .found option ""

theorem isOptionWord_long {name : List Char} (hname : ∀ c ∈ name, nameChar c) :
    IsOptionWord ⟨'-' :: '-' :: name⟩ := by
  have hspan : name.span nameChar = (name, []) := by
    rw [List.span_eq_take_drop, List.takeWhile_eq_self_iff.mpr hname,
      List.dropWhile_eq_nil_iff.mpr hname]
  refine parseArgument_of_pathMatch ?_ rfl rfl rfl (List.cons_ne_nil _ _) ?_
  · simp only [longOptionMatch, hspan]
  · have hchar : ∀ c ∈ name, !isSpace c := fun c hc => by
      have := hname c hc
      simp only [nameChar, Bool.and_eq_true] at this
      exact this.2
    simpa [noSpace, isSpace] using hchar

/-- Every option that `parse_argument` finds re-parses as itself. -/
theorem isOptionWord_option {argument : String} (h : (parseArgument argument).success) :
    IsOptionWord (parseArgument argument).option := by
  rcases parseArgument_cases h with hfound | ⟨name, value, hname, hfound⟩ |
    ⟨letter, value, hletter, hfound⟩ | ⟨value, hfound⟩ <;> rw [hfound] <;>
    simp only [OptionInfo.found]
  · exact hfound
  · exact isOptionWord_long hname
  · have hshort : ∀ letter ∈ shortOptionLetters, IsOptionWord ⟨['-', letter]⟩ := by
      unfold IsOptionWord; decide
    exact hshort letter hletter
  · unfold IsOptionWord; decide

/-- A successful parse is `found` with its own option and value. -/
theorem parseArgument_eq_found {argument : String} (h : (parseArgument argument).success) :
    parseArgument argument =
      .found (parseArgument argument).option (parseArgument argument).argument := by
  rcases parseArgument_cases h with hfound | ⟨_, _, _, hfound⟩ | ⟨_, _, _, hfound⟩ |
    ⟨_, hfound⟩ <;> rw [hfound] <;> rfl

end BuildCache.Rust

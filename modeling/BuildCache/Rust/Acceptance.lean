/-
# Which rustc command lines `parse_options` accepts

`parse_options` does not stop at the first problem: the walk collects every error, and
the checks after it verify what the walk collected. Whether a command line is accepted
is therefore spread over both. This module states acceptance on its own terms, over the
option groups of the command line (`Acceptable`): every group is an option with its
value that the walk can cache, exactly one group names the input, exactly one `--emit`
asks for `link` and `metadata` (with or without `dep-info`), and an `--out-dir`, a
`--crate-name` and a `--crate-type` listing a supported kind are present.
`parseOptions_ok_iff` proves that `parse_options` accepts exactly those command lines.

The two directions follow the walk: a group that is not clean adds an error from every
state (`classify_errors_of_refused`), a clean one adds none unless it is a second input
or a second `--emit` (`step_errors_of_clean`, `foldl_errors_of_clean`), and the fields
the checks read are seen through observations that each step extends
(`foldl_or_of_step`).

A command line that is refused is refused in one message: every group refused on its own
adds its error from every state (`step_errors_of_refusal`), so the message lists all of
them in order (`parseOptions_reports_refusals`).
-/

import BuildCache.Rust.Verification

namespace BuildCache.Rust

open StringList

namespace OptionGroup

/-- The `-C` values the walk refuses: a first `=`-field `extra-filename` with an empty last
field, and exactly two fields of which the second is `incremental`. -/
def codegenRefused (value : String) : Bool :=
  let argument := split value '='
  (argument.headD "" = "extra-filename" && (argument.getLastD "").isEmpty) ||
    Collected.secondField argument = "incremental"

/-- The `--target` values the walk refuses: those whose extension, as `file::get_extension`
gives it, is `json`, and those for which a file `VALUE.json` exists. The extension is given
with its dot (`get_build_files` compares it with `.rlib`), so the first test never holds and a
value ending in `.json` is taken; only an existing `VALUE.json` refuses a value. -/
def targetRefused (host : Host) (value : String) : Bool :=
  host.getExtension value = "json" || host.fileExists (value ++ ".json")

/-- A group the walk takes without an error whatever came before it: an option with its
value, of a category the wrapper handles, with a value it can cache. Whether a `PATH` or
an `--emit` group adds an error depends on the groups before it; `Acceptable` counts
those. -/
def Clean (host : Host) : OptionGroup → Prop
  | .complete option value =>
    (getOptionType option).1 ∉ [.unsupported, .unhandled, .responseFile] ∧
      ((getOptionType option).1 = .codeGen → codegenRefused value = false) ∧
      ((getOptionType option).1 = .target → targetRefused host value = false)
  | _ => False

instance (host : Host) : DecidablePred (Clean host)
  | .complete _ _ => inferInstanceAs (Decidable (_ ∧ _ ∧ _))
  | .failed _ => isFalse id
  | .missing _ => isFalse id

/-- The group is an option of category `type` with its value. -/
def hasType (type : OptionType) : OptionGroup → Bool
  | .complete option _ => (getOptionType option).1 = type
  | _ => false

end OptionGroup

/-- The command lines, after the program, that `parse_options` accepts, read over their
groups. -/
structure Acceptable (host : Host) (arguments : List String) : Prop where
  clean : ∀ group ∈ optionGroups arguments, group.Clean host
  oneInput : ((optionGroups arguments).flatMap OptionGroup.inputs).length = 1
  oneEmit : (optionGroups arguments).flatMap OptionGroup.emitKinds = [["link", "metadata"]] ∨
    (optionGroups arguments).flatMap OptionGroup.emitKinds = [["dep-info", "link", "metadata"]]
  outputDir : (optionGroups arguments).any (OptionGroup.hasType .outDir)
  crateName : (optionGroups arguments).any (OptionGroup.hasType .crateName)
  crateType : (optionGroups arguments).any OptionGroup.listsLibraryKind

instance (host : Host) (arguments : List String) : Decidable (Acceptable host arguments) :=
  decidable_of_iff (_ ∧ _ ∧ _ ∧ _ ∧ _ ∧ _)
    ⟨fun ⟨a, b, c, d, e, f⟩ => ⟨a, b, c, d, e, f⟩, fun ⟨a, b, c, d, e, f⟩ => ⟨a, b, c, d, e, f⟩⟩

/-- Only `--crate-name` is a `CRATE_NAME` option, and it takes a value. -/
theorem getOptionType_crateName {option : String} (h : (getOptionType option).1 = .crateName) :
    option = "--crate-name" ∧ (getOptionType option).2 = .yes := by
  have hmem := mem_optionSpecification (by rw [h]; exact nofun)
  generalize getOptionType option = entry at h hmem ⊢
  obtain ⟨kind, has⟩ := entry
  subst h
  simpa [optionSpecification] using hmem

namespace Collected

variable {host : Host} {collected : Collected} {type : OptionType} {arg1 arg2 : String}

theorem inputSeen_eq_nil : collected.inputSeen = [] ↔ collected.input = "" := by
  unfold inputSeen; split <;> simp_all

theorem emitSeen_eq_nil : collected.emitSeen = [] ↔ collected.emit = [] := by
  unfold emitSeen; split <;> simp_all

theorem emit_of_emitSeen {kinds : List String} (h : collected.emitSeen = [kinds]) :
    collected.emit = kinds := by
  unfold emitSeen at h; split at h <;> simp_all

/-- The output directory and the crate name are set by their own options only. -/
theorem classify_namedFields_of_ne :
    (type ≠ .outDir → (collected.classify host type arg1 arg2).outputDir = collected.outputDir) ∧
      (type ≠ .crateName →
        (collected.classify host type arg1 arg2).crateName = collected.crateName) := by
  cases type <;> simp only [classify, keep, addError, apply_ite Collected.outputDir,
    apply_ite Collected.crateName, ite_self, ne_eq, not_true_eq_false, false_implies,
    implies_true, and_self, true_and, and_true]

/-- The `-C` and `--target` values the walk refuses add an error from every state. -/
theorem classify_errors_of_refused
    (h : type = .codeGen ∧ OptionGroup.codegenRefused arg2 ∨
      type = .target ∧ OptionGroup.targetRefused host arg2) :
    collected.errors.length < (collected.classify host type arg1 arg2).errors.length := by
  rcases h with ⟨rfl, h⟩ | ⟨rfl, h⟩ <;>
    simp only [OptionGroup.codegenRefused, OptionGroup.targetRefused] at h <;>
    simp only [classify] <;> split_ifs <;> simp_all [addError, keep]

variable {group : OptionGroup}

/-- A clean group adds no error, unless it names a second input or asks for a second
`--emit`. -/
theorem step_errors_of_clean (hclean : group.Clean host)
    (hinput : group.inputs ≠ [] → collected.input = "")
    (hemit : group.emitKinds ≠ [] → collected.emit = []) :
    (collected.step host group).errors = collected.errors := by
  cases group with
  | complete option value =>
    obtain ⟨hsupported, hcodegen, htarget⟩ := hclean
    simp only [OptionGroup.inputs, OptionGroup.emitKinds] at hinput hemit
    simp only [step]
    generalize (getOptionType option).1 = type at *
    cases type <;> simp only [classify, keep, addError, apply_ite Collected.errors, ite_self]
    case unsupported | unhandled | responseFile => simp at hsupported
    case emit => simp_all
    case path => simp_all [String.isEmpty_iff]
    case codeGen =>
      simp_all [OptionGroup.codegenRefused, String.isEmpty_iff]
      exact fun hextra hempty => absurd (hempty ▸ hcodegen.1 hextra) (by decide)
    case target => simp_all [OptionGroup.targetRefused]
  | _ => exact hclean.elim

theorem step_outputDirSet (hwell : group.WellFormed) :
    (!(collected.step host group).outputDir.isEmpty) =
      (!collected.outputDir.isEmpty || group.hasType .outDir) := by
  cases group with
  | complete option value =>
    by_cases htype : (getOptionType option).1 = .outDir
    · have hvalue : value ≠ "" := hwell.2 (getOptionType_outDir htype).2
      simp [step, htype, classify, OptionGroup.hasType, isEmpty_eq_false hvalue]
    · simp [step, classify_namedFields_of_ne.1 htype, OptionGroup.hasType, htype]
  | _ => simp [step, addError, OptionGroup.hasType]

theorem step_crateNameSet (hwell : group.WellFormed) :
    (!(collected.step host group).crateName.isEmpty) =
      (!collected.crateName.isEmpty || group.hasType .crateName) := by
  cases group with
  | complete option value =>
    by_cases htype : (getOptionType option).1 = .crateName
    · have hvalue : value ≠ "" := hwell.2 (getOptionType_crateName htype).2
      simp [step, htype, classify, keep, OptionGroup.hasType, isEmpty_eq_false hvalue]
    · simp [step, classify_namedFields_of_ne.2 htype, OptionGroup.hasType, htype]
  | _ => simp [step, addError, OptionGroup.hasType]

/-! ## Whole walks -/

variable (host) {groups : List OptionGroup}

/-- A walk over clean, well-formed groups adds no error when what it has seen and what is
left name at most one input and ask for at most one `--emit`. -/
theorem foldl_errors_of_clean (collected : Collected)
    (hclean : ∀ group ∈ groups, group.Clean host) (hwell : ∀ group ∈ groups, group.WellFormed)
    (hinputs : collected.inputSeen.length + (groups.flatMap OptionGroup.inputs).length ≤ 1)
    (hemits : collected.emitSeen.length + (groups.flatMap OptionGroup.emitKinds).length ≤ 1) :
    (groups.foldl (step host) collected).errors = collected.errors := by
  induction groups generalizing collected with
  | nil => rfl
  | cons group groups ih =>
    simp only [List.flatMap_cons, List.length_append] at hinputs hemits
    have herrors : (collected.step host group).errors = collected.errors := by
      refine step_errors_of_clean (hclean _ (.head _)) (fun hne => ?_) (fun hne => ?_)
      · have := List.length_pos.mpr hne
        exact inputSeen_eq_nil.mp (List.eq_nil_of_length_eq_zero (by omega))
      · have := List.length_pos.mpr hne
        exact emitSeen_eq_nil.mp (List.eq_nil_of_length_eq_zero (by omega))
    rw [List.foldl_cons, ih _ (fun g hg => hclean g (.tail _ hg)) (fun g hg => hwell g (.tail _ hg)),
      herrors]
    · rw [step_inputSeen (hwell _ (.head _)) herrors, List.length_append]; omega
    · rw [step_emitSeen herrors, List.length_append]; omega

/-- An observation that each step turns on exactly when the group has some feature is on
after a walk exactly when it was on before or some group has the feature. -/
theorem foldl_or_of_step (observe : Collected → Bool) (part : OptionGroup → Bool)
    (hstep : ∀ collected : Collected, ∀ group ∈ groups,
      observe (collected.step host group) = (observe collected || part group))
    (collected : Collected) :
    observe (groups.foldl (step host) collected) = (observe collected || groups.any part) := by
  induction groups generalizing collected with
  | nil => simp
  | cons group groups ih =>
    rw [List.foldl_cons, ih (fun c g hg => hstep c g (.tail _ hg)), hstep _ _ (.head _),
      List.any_cons, Bool.or_assoc]

/-- A walk that ends without errors is made of clean groups. -/
theorem clean_of_foldl (collected : Collected) (h : (groups.foldl (step host) collected).errors = []) :
    ∀ group ∈ groups, group.Clean host := by
  intro group hmem
  have hnever : ¬ ∀ c : Collected, c.errors.length < (c.step host group).errors.length :=
    fun hgrow => by simpa [h] using foldl_errors_of_mem host collected hmem hgrow
  obtain ⟨option, value, rfl, hsupported⟩ := supported_of_foldl host collected h group hmem
  refine ⟨hsupported, fun hcode => ?_, fun htarget => ?_⟩ <;>
    refine Bool.eq_false_iff.mpr fun hrefused => hnever fun _ => classify_errors_of_refused ?_
  · exact .inl ⟨hcode, hrefused⟩
  · exact .inr ⟨htarget, hrefused⟩

end Collected

namespace RustWrapper

variable {host : Host} {self : RustWrapper} {collected : Collected}

/-- The verification after the walk passes exactly when its checks hold. -/
theorem finishParse_ok_iff :
    (∃ result, self.finishParse host collected = .ok result) ↔
      collected.errors = [] ∧ collected.input ≠ "" ∧ collected.emit ≠ [] ∧
        includes collected.emit requiredEmit ∧ includes allowedEmit collected.emit ∧
        collected.outputDir ≠ "" ∧ collected.crateName ≠ "" ∧ collected.libraryKindSeen := by
  refine ⟨fun ⟨_, h⟩ => finishParse_checks h, fun ⟨herrors, hinput, hemit, hrequired, hallowed,
    houtput, hname, hkind⟩ => ?_⟩
  simp only [Collected.libraryKindSeen, Bool.or_eq_true] at hkind
  rcases hkind with hkind | hkind <;>
    simp [finishParse, herrors, String.isEmpty_iff, hinput, hemit, hrequired, hallowed, houtput,
      hname, hkind]

end RustWrapper

/-! ## The walk of `parse_options` -/

section Walk

variable (host : Host) (program : String) (arguments : List String)

open RustWrapper

theorem collectOptions_outputDirSet :
    (!(collectOptions host program arguments).outputDir.isEmpty) =
      (optionGroups arguments).any (OptionGroup.hasType .outDir) :=
  Collected.foldl_or_of_step host (fun c => !c.outputDir.isEmpty) (OptionGroup.hasType .outDir)
    (fun _ _ hg => Collected.step_outputDirSet (wellFormed_of_mem_optionGroups hg)) _

theorem collectOptions_crateNameSet :
    (!(collectOptions host program arguments).crateName.isEmpty) =
      (optionGroups arguments).any (OptionGroup.hasType .crateName) :=
  Collected.foldl_or_of_step host (fun c => !c.crateName.isEmpty) (OptionGroup.hasType .crateName)
    (fun _ _ hg => Collected.step_crateNameSet (wellFormed_of_mem_optionGroups hg)) _

theorem collectOptions_libraryKindSeen :
    (collectOptions host program arguments).libraryKindSeen =
      (optionGroups arguments).any OptionGroup.listsLibraryKind :=
  Collected.foldl_libraryKindSeen host _

variable {host program arguments}

/-- After an error-free walk the input and the `--emit` kinds seen are those the groups
name. -/
theorem collectOptions_seen (h : (RustWrapper.collectOptions host program arguments).errors = []) :
    (RustWrapper.collectOptions host program arguments).inputSeen = (optionGroups arguments).flatMap OptionGroup.inputs ∧
      (RustWrapper.collectOptions host program arguments).emitSeen =
        (optionGroups arguments).flatMap OptionGroup.emitKinds := by
  have hnoerror : (RustWrapper.collectOptions host program arguments).errors.length ≤
      ({ parsedArgs := [program] } : Collected).errors.length := by simp [h]
  exact ⟨Collected.foldl_append_of_step host _ _
      (fun _ _ hg => Collected.step_inputSeen (wellFormed_of_mem_optionGroups hg)) _ hnoerror,
    Collected.foldl_append_of_step host _ _ (fun _ _ _ => Collected.step_emitSeen) _ hnoerror⟩

end Walk

/-- A second input is refused. -/
example : ¬ Acceptable (Host.sample fun _ => false)
    ["--crate-name", "foo", "--crate-type=lib", "--emit=link,metadata", "--out-dir", "out",
      "src/lib.rs", "src/main.rs"] := by decide

/-! ## How a command line is refused -/

namespace OptionGroup

/-- The error the walk adds for the group whatever came before it, as a list of at most one
message: empty for a clean group. A second input or a second `--emit` adds an error that
depends on the groups before it, and is not counted here. -/
def refusal (host : Host) : OptionGroup → List String
  | .failed token => [token]
  | .missing option => [missingArgument option]
  | .complete option value =>
    match (getOptionType option).1 with
    | .unsupported => ["Unsupported compiler argument " ++ option]
    | .unhandled => ["Unhandled compiler argument " ++ option]
    | .responseFile => ["Cannot handle response file " ++ option]
    | .codeGen =>
      let argument := split value '='
      if argument.headD "" = "extra-filename" && (argument.getLastD "").isEmpty then
        ["Can't cache extra-filename"]
      else if Collected.secondField argument = "incremental" then ["Can't cache incremental builds"]
      else []
    | .target => if targetRefused host value then ["Can't cache target " ++ value] else []
    | _ => []

end OptionGroup

namespace Collected

variable {host : Host} {collected : Collected} {group : OptionGroup}

/-- A refused group adds its refusal, from every state. -/
theorem step_errors_of_refusal (h : group.refusal host ≠ []) :
    (collected.step host group).errors = collected.errors ++ group.refusal host := by
  cases group with
  | complete option value =>
    simp only [OptionGroup.refusal, step] at h ⊢
    generalize (getOptionType option).1 = type at *
    cases type <;> first | exact absurd rfl h | rfl | skip
    case codeGen =>
      by_cases hextra : (split value '=').headD "" = "extra-filename" <;>
        by_cases hinc : Collected.secondField (split value '=') = "incremental" <;>
        simp_all [classify, addError, keep, apply_ite Collected.errors]
      -- `extra-filename=incremental`: both checks read the one value
      split_ifs <;> rfl
    case target =>
      simp only [OptionGroup.targetRefused, Bool.or_eq_true, decide_eq_true_eq] at h ⊢
      simp only [classify, addError, keep]
      split_ifs at h ⊢ <;> simp_all
  | _ => rfl

/-- Every step adds its group's refusal, and perhaps more. -/
theorem step_errors_refusal :
    ∃ added, (collected.step host group).errors = collected.errors ++ added ∧
      (group.refusal host).Sublist added := by
  by_cases h : group.refusal host = []
  · rcases @step_errors host collected group with hstep | ⟨message, hstep⟩
    · exact ⟨[], by simp [hstep], h ▸ .refl _⟩
    · exact ⟨[message], hstep, h ▸ List.nil_sublist _⟩
  · exact ⟨_, step_errors_of_refusal h, .refl _⟩

variable (host)

/-- A walk collects the refusals of all its groups, in order, among its errors. -/
theorem foldl_errors_refusal (groups : List OptionGroup) (collected : Collected) :
    ∃ added, (groups.foldl (step host) collected).errors = collected.errors ++ added ∧
      (groups.flatMap (OptionGroup.refusal host)).Sublist added := by
  induction groups generalizing collected with
  | nil => exact ⟨[], by simp, .refl _⟩
  | cons group groups ih =>
    obtain ⟨first, hfirst, hsub⟩ := @step_errors_refusal host collected group
    obtain ⟨rest, hrest, hsubs⟩ := ih (collected.step host group)
    exact ⟨first ++ rest, by rw [List.foldl_cons, hrest, hfirst, List.append_assoc],
      by simpa using hsub.append hsubs⟩

end Collected

/-- The verification after a walk that collected errors reports them all, in one message. -/
theorem RustWrapper.finishParse_of_errors {host : Host} {self : RustWrapper}
    {collected : Collected} (h : collected.errors ≠ []) :
    self.finishParse host collected = self.panic (join "\n" collected.errors) :=
  if_pos (List.length_pos.mpr h)

/-- `parse_options` does not stop at the first refused group: when any group is refused, it
raises one exception whose message lists, after the header, the errors the walk collected,
and among them the refusal of every group in the order of the command line. -/
theorem parseOptions_reports_refusals {host : Host} {self : RustWrapper} {program : String}
    {arguments : List String}
    (hrefused : (optionGroups arguments).flatMap (OptionGroup.refusal host) ≠ []) :
    ∃ errors, self.parseOptions host (program :: arguments) =
        .error (join ": " [if self.crateName.isEmpty then "<unknown crate>" else self.crateName,
          join "\n" errors]) ∧
      ((optionGroups arguments).flatMap (OptionGroup.refusal host)).Sublist errors := by
  obtain ⟨added, hadded, hsub⟩ :=
    Collected.foldl_errors_refusal host (optionGroups arguments) { parsedArgs := [program] }
  simp only [List.nil_append] at hadded
  have herrors : (RustWrapper.collectOptions host program arguments).errors ≠ [] :=
    fun hnil => hrefused (List.eq_nil_of_sublist_nil (hnil ▸ hadded ▸ hsub))
  refine ⟨_, ?_, hadded ▸ hsub⟩
  rw [parseOptions_eq]
  exact RustWrapper.finishParse_of_errors herrors

/-- A command line with an unsupported option, an empty extra file name, a JSON target and a
response file. -/
def refusedArguments : List String :=
  ["--crate-name", "foo", "-o", "out.rlib", "-C", "extra-filename=", "--target", "custom",
    "@args", "src/lib.rs"]

/-- Its four refusals are all reported, in order, in one message. -/
theorem refusedArguments_reported :
    (optionGroups refusedArguments).flatMap
        (OptionGroup.refusal (Host.sample fun path => path = "custom.json")) =
      ["Unsupported compiler argument -o", "Can't cache extra-filename",
        "Can't cache target custom", "Cannot handle response file @"] ∧
      ∃ errors, (RustWrapper.create []).parseOptions (Host.sample fun path => path = "custom.json")
          ("rustc" :: refusedArguments) =
          .error (join ": " [if (RustWrapper.create []).crateName.isEmpty then "<unknown crate>"
            else (RustWrapper.create []).crateName, join "\n" errors]) ∧
        ((optionGroups refusedArguments).flatMap
          (OptionGroup.refusal (Host.sample fun path => path = "custom.json"))).Sublist errors :=
  ⟨rfl, @parseOptions_reports_refusals (Host.sample fun path => path = "custom.json")
    (RustWrapper.create []) "rustc" refusedArguments (by decide)⟩

/-! ## Repeated options: the last one is kept -/

namespace OptionGroup

/-- The value of a group of category `type`. -/
def valuesOf (type : OptionType) : OptionGroup → List String
  | .complete option value => if (getOptionType option).1 = type then [value] else []
  | _ => []

/-- The name a `-C` group whose first `=`-field is `extra-filename` gives: its last `=`-field
(`extra-filename` itself for a bare `-C extra-filename`). -/
def extraFilenames : OptionGroup → List String
  | .complete option value =>
    if (getOptionType option).1 = .codeGen ∧ (split value '=').headD "" = "extra-filename" then
      [(split value '=').getLastD ""]
    else []
  | _ => []

end OptionGroup

namespace Collected

variable {host : Host} {collected : Collected} {type : OptionType} {arg1 arg2 : String}
  {group : OptionGroup}

theorem classify_extraFilename :
    (collected.classify host type arg1 arg2).extraFilename =
      if type = .codeGen ∧ (split arg2 '=').headD "" = "extra-filename" then
        (split arg2 '=').getLastD ""
      else collected.extraFilename := by
  cases type <;> simp only [classify, keep, addError, apply_ite Collected.extraFilename, ite_self,
    reduceCtorEq, false_and, if_false, true_and]

theorem step_outputDir :
    (collected.step host group).outputDir = (group.valuesOf .outDir).getLastD collected.outputDir := by
  cases group with
  | complete option value =>
    by_cases htype : (getOptionType option).1 = .outDir
    · simp [step, htype, classify, OptionGroup.valuesOf]
    · simp [step, classify_namedFields_of_ne.1 htype, OptionGroup.valuesOf, htype]
  | _ => rfl

theorem step_crateName :
    (collected.step host group).crateName =
      (group.valuesOf .crateName).getLastD collected.crateName := by
  cases group with
  | complete option value =>
    by_cases htype : (getOptionType option).1 = .crateName
    · simp [step, htype, classify, keep, OptionGroup.valuesOf]
    · simp [step, classify_namedFields_of_ne.2 htype, OptionGroup.valuesOf, htype]
  | _ => rfl

theorem step_extraFilename :
    (collected.step host group).extraFilename =
      group.extraFilenames.getLastD collected.extraFilename := by
  cases group with
  | complete option value =>
    simp only [step, classify_extraFilename, OptionGroup.extraFilenames]
    split_ifs <;> rfl
  | _ => rfl

variable (host) {groups : List OptionGroup}

/-- A field that each step overwrites with the last of the group's values, if it has any,
holds after a walk the last value of all groups, or what it held before. -/
theorem foldl_last_of_step {α : Type} (observe : Collected → α) (part : OptionGroup → List α)
    (hstep : ∀ collected : Collected, ∀ group ∈ groups,
      observe (collected.step host group) = (part group).getLastD (observe collected))
    (collected : Collected) :
    observe (groups.foldl (step host) collected) =
      (groups.flatMap part).getLastD (observe collected) := by
  induction groups generalizing collected with
  | nil => rfl
  | cons group groups ih =>
    rw [List.foldl_cons, ih (fun c g hg => hstep c g (.tail _ hg)), hstep _ _ (.head _),
      List.flatMap_cons]
    simp only [List.getLastD_eq_getLast?, List.getLast?_append]
    cases (groups.flatMap part).getLast? <;> rfl

end Collected

/-- A command line that repeats `--crate-name`, `--out-dir` and `-C extra-filename`. -/
def repeatedArguments : List String :=
  ["--crate-name", "foo", "--crate-name", "bar", "--crate-type", "lib", "--emit",
    "dep-info,link,metadata", "--out-dir", "a", "--out-dir", "b", "-C", "extra-filename=-1",
    "-C", "extra-filename=-2", "src/lib.rs"]

end BuildCache.Rust

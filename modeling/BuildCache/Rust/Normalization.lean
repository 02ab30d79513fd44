/-
# The normalised command line is a fixed point

`resolve_args` replaces the command line by the `parsed_args` of `parse_options`,
where every option and its value stand as separate tokens. Parsing that normal
form again forms the same option groups, so it is accepted with the same data.
One kind of group escapes this: an option that takes no value but had text glued
to it (`-gX`, `-vX`, or an unknown `--opt=val`, which is a path with a value). Its
text becomes a token of its own, and parsing the normal form again reads that
token as a separate argument.
-/

import BuildCache.Rust.OptionGroups

namespace BuildCache.Rust

open StringList

/-- A group in normal form: a complete option group whose option re-parses as itself, with a
non-empty value exactly when the option takes one. -/
def OptionGroup.Normal : OptionGroup → Prop
  | .complete option value =>
    IsOptionWord option ∧ ((getOptionType option).2 = .yes ↔ value ≠ "")
  | _ => False

theorem optionTokens_of_ne {option value : String} (h : value ≠ "") :
    optionTokens option value = [option, value] := by
  simp [optionTokens, String.isEmpty_iff, h]

theorem optionTokens_empty (option : String) : optionTokens option "" = [option] := rfl

/-- Tokenising the tokens of groups in normal form gives the groups back. -/
theorem optionGroups_flatMap_tokens :
    ∀ {groups : List OptionGroup}, (∀ group ∈ groups, group.Normal) →
      optionGroups (groups.flatMap OptionGroup.tokens) = groups
  | [], _ => rfl
  | .failed _ :: _, h => (h _ (List.mem_cons_self _ _)).elim
  | .missing _ :: _, h => (h _ (List.mem_cons_self _ _)).elim
  | .complete option value :: groups, h => by
    obtain ⟨hword, hvalue⟩ := h _ (List.mem_cons_self _ _)
    have ih := optionGroups_flatMap_tokens fun group hg => h group (List.mem_cons_of_mem _ hg)
    unfold IsOptionWord at hword
    by_cases hyes : (getOptionType option).2 = .yes
    · have hne : value ≠ "" := hvalue.mp hyes
      simp [OptionGroup.tokens, optionTokens_of_ne hne, optionGroups, hword, OptionInfo.found,
        needsArgument, hyes, String.isEmpty_iff, hne, ih]
    · have hempty : value = "" := not_not.mp (mt hvalue.mpr hyes)
      subst hempty
      simp only [List.flatMap_cons, OptionGroup.tokens, optionTokens_empty, List.singleton_append]
      rw [optionGroups.eq_def]
      simp [hword, OptionInfo.found, needsArgument, hyes, ih]

/-- No option that takes no value has text glued to it. -/
def noGluedFlag (arguments : List String) : Bool :=
  (optionGroups arguments).all fun
    | .complete option value => (getOptionType option).2 = .yes || value.isEmpty
    | _ => true

theorem normal_of_mem {arguments : List String} {group : OptionGroup}
    (hmem : group ∈ optionGroups arguments) (hcomplete : group.isComplete)
    (hglued : noGluedFlag arguments) : group.Normal := by
  cases group with
  | complete option value =>
    obtain ⟨hword, hyes⟩ := wellFormed_of_mem_optionGroups hmem
    have hflag := List.all_eq_true.mp hglued _ hmem
    refine ⟨hword, hyes, fun hne => ?_⟩
    cases hkind : (getOptionType option).2
    · simp [hkind, String.isEmpty_iff, hne] at hflag
    · rfl
  | _ => simp [OptionGroup.isComplete] at hcomplete

/-- An accepted command line without glued flags has a normal form that `parse_options`
accepts again, with the same collected data and the same normal form. -/
theorem parseOptions_normalForm_fixed {host : Host} {self wrapper : RustWrapper}
    (program : String) (arguments : List String) {parsed : List String}
    (h : self.parseOptions host (program :: arguments) = .ok (wrapper, parsed))
    (hglued : noGluedFlag arguments) :
    self.parseOptions host parsed = .ok (wrapper, parsed) := by
  have accepted := h
  rw [parseOptions_eq] at h
  obtain ⟨herrors, hresult⟩ := RustWrapper.finishParse_eq_ok h
  have hcomplete : ∀ group ∈ optionGroups arguments, group.isComplete := fun group hmem => by
    by_contra hincomplete
    have := Collected.foldl_errors_of_incomplete host _ { parsedArgs := [program] } hmem
      (by simpa using hincomplete)
    simp [herrors] at this
  have hparsed : parsed = program :: (optionGroups arguments).flatMap OptionGroup.tokens := by
    rw [(Prod.mk.inj hresult).2, Collected.foldl_parsedArgs]
    rfl
  rw [hparsed, parseOptions_eq, optionGroups_flatMap_tokens fun group hmem =>
    normal_of_mem hmem (hcomplete group hmem) hglued, ← parseOptions_eq, accepted, hparsed]

theorem cargoArguments_normalForm_fixed :
    ∃ wrapper parsed, (RustWrapper.create ("rustc" :: cargoArguments)).parseOptions
        (Host.sample fun _ => false) ("rustc" :: cargoArguments) = .ok (wrapper, parsed) ∧
      noGluedFlag cargoArguments = true ∧
      (RustWrapper.create ("rustc" :: cargoArguments)).parseOptions (Host.sample fun _ => false)
        parsed = .ok (wrapper, parsed) :=
  ⟨_, _, rfl, rfl, parseOptions_normalForm_fixed "rustc" cargoArguments rfl rfl⟩

/-- A command line with a flag that has text glued to it. -/
def gluedFlagCommandLine : List String :=
  ["rustc", "-gx", "--crate-name", "foo", "--crate-type", "lib", "--emit", "link,metadata",
    "--out-dir", "out", "src/lib.rs"]

/-- Its normal form splits `-gx` into `-g x`, and `x` is then a second input file. -/
theorem gluedFlag_normalForm_rejected :
    ∃ wrapper parsed, (RustWrapper.create gluedFlagCommandLine).parseOptions
        (Host.sample fun _ => false) gluedFlagCommandLine = .ok (wrapper, parsed) ∧
      (RustWrapper.create gluedFlagCommandLine).parseOptions (Host.sample fun _ => false) parsed =
        .error "<unknown crate>: Cannot handle multiple inputs src/lib.rs" :=
  ⟨_, _, rfl, rfl⟩

end BuildCache.Rust

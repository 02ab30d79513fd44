/-
# Edits the fingerprint does not see

Lint levels, diagnostic rendering and verbosity are `IGNORED` options, the output
directory is not hashed, and the extern crates are sorted before they are stored.
So inserting or deleting whole ignored option groups, moving `--extern` groups
around and replacing an `--out-dir` group by another leave the outcome of
`parse_options` unchanged, as far as the fingerprint reads it. An edit is made at a
group boundary, so that inserted tokens are never taken as the value of the option
before them; a replacement `--out-dir` group must itself parse as one group, which a
glued `--out-dir=VALUE` with white space in `VALUE` does not.
-/

import Mathlib.Logic.Relation
import BuildCache.Rust.Normalization

namespace BuildCache.Rust

open StringList

/-- The walk over these tokens ends at a group boundary: it never needs the token after
them as the value of an option. -/
def endsComplete : List String → Bool
  | [] => true
  | argument :: rest =>
    let option := parseArgument argument
    if !option.success then endsComplete rest
    else if needsArgument option then
      match rest with
      | [] => false
      | _ :: rest' => endsComplete rest'
    else endsComplete rest

/-- At a group boundary the grouping of a command line splits. -/
theorem optionGroups_append {front : List String} (h : endsComplete front)
    (back : List String) :
    optionGroups (front ++ back) = optionGroups front ++ optionGroups back := by
  induction front using optionGroups_induction with
  | nil => rfl
  | failed argument rest hfailed ih =>
    rw [endsComplete.eq_def] at h
    simp only [hfailed, Bool.not_false, if_true] at h
    rw [List.cons_append, optionGroups_cons_of_failed hfailed, optionGroups_cons_of_failed hfailed,
      ih h, List.cons_append]
  | missing argument hsuccess hneeds =>
    simp [endsComplete, hsuccess, hneeds] at h
  | withValue argument next rest hsuccess hneeds ih =>
    simp [endsComplete, hsuccess, hneeds] at h
    rw [List.cons_append, List.cons_append, optionGroups_cons_cons_of_needs hsuccess hneeds,
      optionGroups_cons_cons_of_needs hsuccess hneeds, ih h, List.cons_append]
  | found argument rest hfound hvalue ih =>
    rw [endsComplete.eq_def] at h
    simp only [hfound, hvalue, Bool.not_true, Bool.false_eq_true, if_false] at h
    rw [List.cons_append, optionGroups_cons_of_found hfound hvalue, optionGroups_cons_of_found hfound hvalue,
      ih h, List.cons_append]

/-- The tokens are one whole group, an option of category `type` with its value. -/
def IsGroupOf (type : OptionType) (tokens : List String) : Prop :=
  endsComplete tokens ∧ ∃ option value,
    optionGroups tokens = [.complete option value] ∧ (getOptionType option).1 = type

/-- The tokens are one whole group of the walk, of any kind. -/
def IsOneGroup (tokens : List String) : Prop :=
  endsComplete tokens ∧ ∃ group, optionGroups tokens = [group]

/-- One edit of a command line (the tokens after the program) that the fingerprint should not
notice. -/
inductive IgnorableEdit : List String → List String → Prop
  | insertIgnored {front ignored back : List String} :
      endsComplete front → IsGroupOf .ignored ignored →
      IgnorableEdit (front ++ back) (front ++ ignored ++ back)
  | swapExtern {front externGroup other back : List String} :
      endsComplete front → IsGroupOf .externLib externGroup → IsOneGroup other →
      IgnorableEdit (front ++ externGroup ++ other ++ back) (front ++ other ++ externGroup ++ back)
  | changeOutDir {front outDir outDir' back : List String} :
      endsComplete front → IsGroupOf .outDir outDir → IsGroupOf .outDir outDir' →
      IgnorableEdit (front ++ outDir ++ back) (front ++ outDir' ++ back)

/-! ## Steps the fingerprint does not see -/

namespace Collected

variable {host : Host} {collected : Collected} {option value : String}

/-- An ignored option only writes its tokens. -/
theorem similar_step_ignored (h : (getOptionType option).1 = .ignored) :
    collected.Similar (collected.step host (.complete option value)) := by
  simp only [step, h]
  exact ⟨rfl, rfl, rfl, rfl, rfl, rfl, rfl, rfl, rfl, rfl, rfl⟩

/-- An `--extern` option only writes its tokens and adds to the extern crates. -/
theorem similar_step_externLib (h : (getOptionType option).1 = .externLib) :
    collected.Similar (collected.step host (.complete option value)) := by
  simp only [step, h, classify]
  split <;> exact ⟨rfl, rfl, rfl, rfl, rfl, rfl, rfl, rfl, rfl, rfl, rfl⟩

/-- Two `--out-dir` options with values leave similar states. -/
theorem similar_step_outDir {option' value' : String} (h : (getOptionType option).1 = .outDir)
    (h' : (getOptionType option').1 = .outDir) (hvalue : value ≠ "") (hvalue' : value' ≠ "") :
    (collected.step host (.complete option value)).Similar
      (collected.step host (.complete option' value')) := by
  simp only [step, h, h']
  refine ⟨rfl, rfl, rfl, rfl, rfl, rfl, rfl, rfl, ?_, rfl, rfl⟩
  simp [classify, isEmpty_eq_false hvalue, isEmpty_eq_false hvalue']

end Collected

/-! ## Walks that agree -/

/-- Two group lists whose walks, from any state, end in similar states that collected the same
extern crates up to order. -/
def WalkAgrees (host : Host) (first second : List OptionGroup) : Prop :=
  (∀ collected, (first.foldl (Collected.step host) collected).Similar
    (second.foldl (Collected.step host) collected)) ∧
  (first.flatMap (OptionGroup.externFilesOf host)).Perm
    (second.flatMap (OptionGroup.externFilesOf host))

theorem WalkAgrees.refl (host : Host) (groups : List OptionGroup) : WalkAgrees host groups groups :=
  ⟨fun _ => .refl _, .refl _⟩

theorem WalkAgrees.symm {host : Host} {first second : List OptionGroup}
    (h : WalkAgrees host first second) : WalkAgrees host second first :=
  ⟨fun collected => (h.1 collected).symm, h.2.symm⟩

theorem WalkAgrees.trans {host : Host} {first second third : List OptionGroup}
    (h₁ : WalkAgrees host first second) (h₂ : WalkAgrees host second third) :
    WalkAgrees host first third :=
  ⟨fun collected => (h₁.1 collected).trans (h₂.1 collected), h₁.2.trans h₂.2⟩

/-- Agreement is kept when both lists are extended at the front and at the back. -/
theorem WalkAgrees.frame {host : Host} {first second : List OptionGroup} (front back : List OptionGroup)
    (h : WalkAgrees host first second) : WalkAgrees host (front ++ first ++ back) (front ++ second ++ back) := by
  refine ⟨fun collected => ?_, ?_⟩
  · simp only [List.foldl_append]
    exact Collected.Similar.foldl host back (h.1 _)
  · simp only [List.flatMap_append]
    exact (h.2.append_left _).append_right _

/-! ## One edit, then any run of edits -/

/-- Inserting an ignored group changes nothing the fingerprint reads. -/
theorem walkAgrees_ignored {host : Host} {option value : String}
    (h : (getOptionType option).1 = .ignored) :
    WalkAgrees host [] [.complete option value] :=
  ⟨fun _ => Collected.similar_step_ignored h, by simp [OptionGroup.externFilesOf, h]⟩

/-- An `--extern` group commutes with any group next to it. -/
theorem walkAgrees_swap {host : Host} {option value : String} (other : OptionGroup)
    (h : (getOptionType option).1 = .externLib) :
    WalkAgrees host [.complete option value, other] [other, .complete option value] := by
  refine ⟨fun collected => ?_, by simpa using List.perm_append_comm⟩
  have before : (collected.step host other).Similar
      ((collected.step host (.complete option value)).step host other) :=
    (Collected.similar_step_externLib h).step other
  have after : (collected.step host other).Similar
      ((collected.step host other).step host (.complete option value)) :=
    Collected.similar_step_externLib h
  exact before.symm.trans after

/-- Two `--out-dir` groups with values are interchangeable. -/
theorem walkAgrees_outDir {host : Host} {option value option' value' : String}
    (h : (getOptionType option).1 = .outDir) (h' : (getOptionType option').1 = .outDir)
    (hvalue : value ≠ "") (hvalue' : value' ≠ "") :
    WalkAgrees host [.complete option value] [.complete option' value'] :=
  ⟨fun _ => Collected.similar_step_outDir h h' hvalue hvalue',
    by simp [OptionGroup.externFilesOf, h, h']⟩

/-- The value of a whole `--out-dir` group is never empty. -/
theorem value_ne_empty_of_outDir_group {tokens : List String} {option value : String}
    (hgroups : optionGroups tokens = [.complete option value])
    (htype : (getOptionType option).1 = .outDir) : value ≠ "" := by
  have hwell : (OptionGroup.complete option value).WellFormed :=
    wellFormed_of_mem_optionGroups (hgroups ▸ List.mem_singleton_self _)
  exact hwell.2 (getOptionType_outDir htype).2

/-- One ignorable edit leaves walks that agree. -/
theorem walkAgrees_of_edit {host : Host} {first second : List String}
    (h : IgnorableEdit first second) :
    WalkAgrees host (optionGroups first) (optionGroups second) := by
  cases h with
  | @insertIgnored front ignored back hfront hignored =>
    obtain ⟨hends, option, value, hgroups, htype⟩ := hignored
    have := (@walkAgrees_ignored host option value htype).frame
      (optionGroups front) (optionGroups back)
    simpa [List.append_assoc, optionGroups_append hfront, optionGroups_append hends,
      hgroups] using this
  | @swapExtern front externGroup other back hfront hextern hother =>
    obtain ⟨hends, option, value, hgroups, htype⟩ := hextern
    obtain ⟨hends', group, hgroups'⟩ := hother
    have := (@walkAgrees_swap host option value group htype).frame
      (optionGroups front) (optionGroups back)
    simpa [List.append_assoc, optionGroups_append hfront, optionGroups_append hends,
      optionGroups_append hends', hgroups, hgroups'] using this
  | @changeOutDir front outDir outDir' back hfront houtDir houtDir' =>
    obtain ⟨hends, option, value, hgroups, htype⟩ := houtDir
    obtain ⟨hends', option', value', hgroups', htype'⟩ := houtDir'
    have := (@walkAgrees_outDir host _ _ _ _ htype htype' (value_ne_empty_of_outDir_group hgroups htype)
      (value_ne_empty_of_outDir_group hgroups' htype')).frame (optionGroups front) (optionGroups back)
    simpa [List.append_assoc, optionGroups_append hfront, optionGroups_append hends,
      optionGroups_append hends', hgroups, hgroups'] using this

/-- Command lines related by any sequence of ignorable edits, in either direction, give walks
that agree. -/
theorem walkAgrees_of_eqvGen {host : Host} {first second : List String}
    (h : Relation.EqvGen IgnorableEdit first second) :
    WalkAgrees host (optionGroups first) (optionGroups second) := by
  induction h with
  | rel _ _ hedit => exact walkAgrees_of_edit hedit
  | refl => exact .refl host _
  | symm _ _ _ ih => exact ih.symm
  | trans _ _ _ _ _ ih ih' => exact ih.trans ih'

/-- Ignorable edits never change whether `parse_options` accepts a command line, nor, when it
does, anything of what it stores that reaches the fingerprint. -/
theorem parseOptions_ignorable_invariant {host : Host} (self : RustWrapper) (program : String)
    {arguments arguments' : List String}
    (h : Relation.EqvGen IgnorableEdit arguments arguments') :
    (self.parseOptions host (program :: arguments)).map (RustWrapper.parsedForHash ·.1) =
      (self.parseOptions host (program :: arguments')).map (RustWrapper.parsedForHash ·.1) := by
  obtain ⟨hsimilar, hexterns⟩ := @walkAgrees_of_eqvGen host _ _ h
  rw [parseOptions_eq, parseOptions_eq]
  refine (hsimilar _).finishParse ?_
  rw [Collected.foldl_externs, Collected.foldl_externs]
  exact hexterns.append_left _

/-- Adding `-v` in front of a cargo invocation is an ignorable edit. -/
theorem verbose_cargo_invariant :
    Relation.EqvGen IgnorableEdit cargoArguments ("-v" :: cargoArguments) ∧
      ((RustWrapper.create ("rustc" :: cargoArguments)).parseOptions (Host.sample fun _ => true)
          ("rustc" :: cargoArguments)).map (RustWrapper.parsedForHash ·.1) =
        ((RustWrapper.create ("rustc" :: cargoArguments)).parseOptions (Host.sample fun _ => true)
          ("rustc" :: "-v" :: cargoArguments)).map (RustWrapper.parsedForHash ·.1) :=
  have hedit : Relation.EqvGen IgnorableEdit cargoArguments ("-v" :: cargoArguments) :=
    .rel _ _ (@IgnorableEdit.insertIgnored [] ["-v"] cargoArguments rfl ⟨rfl, "-v", "", rfl, rfl⟩)
  ⟨hedit, parseOptions_ignorable_invariant _ "rustc" hedit⟩

/-- A cargo-like command line whose output directory is given glued to its option. -/
def gluedOutDirCommandLine (outDir : String) : List String :=
  ["rustc", "--crate-name", "foo", "--crate-type", "lib", "--emit", "link,metadata",
    "--out-dir=" ++ outDir, "src/lib.rs"]

/-- Changing the non-empty output directory of a glued `--out-dir=` to one with a blank in it
makes the token match no alternative of the argument pattern, so the command line is
rejected. -/
theorem gluedOutDir_blank_rejected :
    ∃ wrapper parsed, (RustWrapper.create (gluedOutDirCommandLine "out")).parseOptions
        (Host.sample fun _ => false) (gluedOutDirCommandLine "out") = .ok (wrapper, parsed) ∧
      (RustWrapper.create (gluedOutDirCommandLine "out dir")).parseOptions
        (Host.sample fun _ => false) (gluedOutDirCommandLine "out dir") =
        .error "<unknown crate>: --out-dir=out dir" :=
  ⟨_, _, rfl, rfl⟩

end BuildCache.Rust

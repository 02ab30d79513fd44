/-
# What an accepted rustc command line looks like

When `parse_options` returns, its walk collected no error and every check after the
walk passed. Read back over the command line, that says: every token after the program
is an option the parse accepts, or the value such an option took from the next token;
no option is unsupported, unhandled or a response file; exactly one group names the
input and exactly one is an `--emit`; the emitted kinds are `link` and `metadata`, with
`dep-info` or without; the output directory and the crate name are set; and some
`--crate-type` value lists a library kind.

The input is the option that `parse_argument` found in its token. That is the token
itself, except for a token `--NAME=VALUE` whose `--NAME` is not in the option table:
there the input is `--NAME`, and `VALUE` only reaches the relevant arguments.

The fields that the checks read are each set by one kind of group. Each gets a step
lemma, and `foldl_append_of_step` carries the step lemmas over the whole walk.
-/

import BuildCache.Rust.Accepted
import BuildCache.Rust.Grammar

namespace BuildCache.Rust

open StringList

/-! ## The tokens of each group -/

/-- The tokens each group of the walk consumes: the token alone, unless it is an option the
parse accepts that needs a value, which takes the token after it. -/
def optionSegments : List String → List (List String)
  | [] => []
  | argument :: rest =>
    let option := parseArgument argument
    if option.success && needsArgument option then
      match rest with
      | [] => [[argument]]
      | next :: rest' => [argument, next] :: optionSegments rest'
    else [argument] :: optionSegments rest

section Equations

variable {argument next : String} {rest : List String}

theorem optionSegments_cons_of_failed (h : (parseArgument argument).success = false) :
    optionSegments (argument :: rest) = [argument] :: optionSegments rest := by
  rw [optionSegments.eq_def]; simp [h]

theorem optionSegments_singleton : optionSegments [argument] = [[argument]] := by
  simp [optionSegments]

theorem optionSegments_cons_cons_of_needs (h : (parseArgument argument).success = true)
    (hneeds : needsArgument (parseArgument argument) = true) :
    optionSegments (argument :: next :: rest) = [argument, next] :: optionSegments rest := by
  simp [optionSegments, h, hneeds]

theorem optionSegments_cons_of_found (h : (parseArgument argument).success = true)
    (hvalue : needsArgument (parseArgument argument) = false) :
    optionSegments (argument :: rest) = [argument] :: optionSegments rest := by
  rw [optionSegments.eq_def]; simp [h, hvalue]

end Equations

/-- A segment of an accepted walk: an option the parse accepts, with the token after it as a
non-empty value when it needs one. -/
def AcceptedSegment : List String → Prop
  | [token] => (parseArgument token).success ∧ needsArgument (parseArgument token) = false
  | [token, value] =>
    (parseArgument token).success ∧ needsArgument (parseArgument token) ∧ value ≠ ""
  | _ => False

/-- The segments cut the command line into consecutive pieces. -/
theorem flatten_optionSegments (arguments : List String) :
    (optionSegments arguments).flatten = arguments := by
  induction arguments using optionGroups_induction with
  | nil => rfl
  | failed argument rest hfailed ih => simp [optionSegments_cons_of_failed hfailed, ih]
  | missing argument => simp [optionSegments_singleton]
  | withValue argument next rest hsuccess hneeds ih =>
    simp [optionSegments_cons_cons_of_needs hsuccess hneeds, ih]
  | found argument rest hfound hvalue ih => simp [optionSegments_cons_of_found hfound hvalue, ih]

/-- When every group is an option with its value, every segment is accepted. -/
theorem acceptedSegment_of_complete {arguments : List String}
    (h : ∀ group ∈ optionGroups arguments, group.isComplete) :
    ∀ segment ∈ optionSegments arguments, AcceptedSegment segment := by
  induction arguments using optionGroups_induction with
  | nil => simp [optionSegments]
  | failed argument rest hfailed ih =>
    simp [optionGroups_cons_of_failed hfailed, OptionGroup.isComplete] at h
  | missing argument hsuccess hneeds =>
    simp [optionGroups_singleton_of_needs hsuccess hneeds, OptionGroup.isComplete] at h
  | withValue argument next rest hsuccess hneeds ih =>
    rw [optionGroups_cons_cons_of_needs hsuccess hneeds, List.forall_mem_cons] at h
    have hnext : next ≠ "" := by
      rintro rfl
      simp [show ("" : String).isEmpty = true from rfl, OptionGroup.isComplete] at h
    rw [optionSegments_cons_cons_of_needs hsuccess hneeds, List.forall_mem_cons]
    exact ⟨⟨hsuccess, hneeds, hnext⟩, ih h.2⟩
  | found argument rest hfound hvalue ih =>
    rw [optionGroups_cons_of_found hfound hvalue, List.forall_mem_cons] at h
    rw [optionSegments_cons_of_found hfound hvalue, List.forall_mem_cons]
    exact ⟨⟨hfound, hvalue⟩, ih h.2⟩

/-- An option that takes no value forms its group from a token of its own, which parses to
the option and the group's value. -/
theorem exists_segment_of_complete {arguments : List String} {option value : String}
    (hmem : .complete option value ∈ optionGroups arguments) (hno : (getOptionType option).2 = .no) :
    ∃ token, [token] ∈ optionSegments arguments ∧ parseArgument token = .found option value := by
  induction arguments using optionGroups_induction with
  | nil => simp [optionGroups] at hmem
  | failed argument rest hfailed ih =>
    rw [optionGroups_cons_of_failed hfailed, List.mem_cons] at hmem
    obtain ⟨token, htoken, hparse⟩ := ih (hmem.resolve_left (by simp))
    exact ⟨token, by simp [optionSegments_cons_of_failed hfailed, htoken], hparse⟩
  | missing argument hsuccess hneeds =>
    simp [optionGroups_singleton_of_needs hsuccess hneeds] at hmem
  | withValue argument next rest hsuccess hneeds ih =>
    rw [optionGroups_cons_cons_of_needs hsuccess hneeds, List.mem_cons] at hmem
    rcases hmem with hgroup | hmem
    · split at hgroup
      · cases hgroup
      · cases hgroup
        rw [← found_hasArgument hsuccess] at hno
        simp [needsArgument, hno] at hneeds
    · obtain ⟨token, htoken, hparse⟩ := ih hmem
      exact ⟨token, by simp [optionSegments_cons_cons_of_needs hsuccess hneeds, htoken], hparse⟩
  | found argument rest hfound hvalue ih =>
    rw [optionGroups_cons_of_found hfound hvalue, List.mem_cons, OptionGroup.complete.injEq] at hmem
    rw [optionSegments_cons_of_found hfound hvalue]
    rcases hmem with ⟨rfl, rfl⟩ | hmem
    · exact ⟨argument, .head _, parseArgument_eq_found hfound⟩
    · obtain ⟨token, htoken, hparse⟩ := ih hmem
      exact ⟨token, .tail _ htoken, hparse⟩

/-! ## The fields the checks read -/

namespace OptionGroup

/-- The input a group names: the option of a `PATH` group. -/
def inputs : OptionGroup → List String
  | .complete option _ => if (getOptionType option).1 = .path then [option] else []
  | _ => []

/-- The kinds an `--emit` group asks for, sorted. -/
def emitKinds : OptionGroup → List (List String)
  | .complete option value =>
    if (getOptionType option).1 = .emit then [sort (split value ',')] else []
  | _ => []

/-- A `--crate-type` group whose value lists a library kind the cache supports. -/
def listsLibraryKind : OptionGroup → Bool
  | .complete option value =>
    (getOptionType option).1 = .crateType &&
      ("lib" ∈ split value ',' || "rlib" ∈ split value ',' || "staticlib" ∈ split value ',')
  | _ => false

end OptionGroup

namespace Collected

/-- The input collected so far, as a list of at most one. -/
def inputSeen (collected : Collected) : List String :=
  if collected.input = "" then [] else [collected.input]

/-- The emitted kinds collected so far, as a list of at most one. -/
def emitSeen (collected : Collected) : List (List String) :=
  if collected.emit = [] then [] else [collected.emit]

/-- Whether a supported library kind has been seen. -/
def libraryKindSeen (collected : Collected) : Bool :=
  collected.crateTypeRlib || collected.crateTypeStaticLib

variable {host : Host} {collected : Collected} {type : OptionType} {arg1 arg2 : String}

/-- Unsupported, unhandled and response-file options always add an error. -/
theorem classify_errors_of_rejected
    (h : type = .unsupported ∨ type = .unhandled ∨ type = .responseFile) :
    collected.errors.length < (collected.classify host type arg1 arg2).errors.length := by
  rcases h with rfl | rfl | rfl <;> simp [classify, addError]

/-- The fields that one category each sets stay as they were under every other category. -/
theorem classify_checkedFields_of_ne :
    (type ≠ .path → (collected.classify host type arg1 arg2).input = collected.input) ∧
      (type ≠ .emit → (collected.classify host type arg1 arg2).emit = collected.emit) ∧
      (type ≠ .crateType →
        (collected.classify host type arg1 arg2).crateTypeRlib = collected.crateTypeRlib ∧
          (collected.classify host type arg1 arg2).crateTypeStaticLib = collected.crateTypeStaticLib) := by
  cases type <;> simp only [classify, keep, addError, apply_ite Collected.input, apply_ite Collected.emit,
    apply_ite Collected.crateTypeRlib, apply_ite Collected.crateTypeStaticLib, ite_self, ne_eq,
    not_true_eq_false, false_implies, implies_true, and_self, true_and, and_true]

/-- A `PATH` option that adds no error is the first input, and becomes it. -/
theorem classify_path (h : (collected.classify host .path arg1 arg2).errors = collected.errors) :
    collected.input = "" ∧ (collected.classify host .path arg1 arg2).input = arg1 := by
  simp only [classify] at h ⊢
  split_ifs at h ⊢ with hinput
  · simp [addError] at h
  · exact ⟨(String.isEmpty_iff _).mp (by simpa using hinput), rfl⟩

/-- An `--emit` option that adds no error is the first, and sets the sorted kinds. -/
theorem classify_emit (h : (collected.classify host .emit arg1 arg2).errors = collected.errors) :
    collected.emit = [] ∧
      (collected.classify host .emit arg1 arg2).emit = sort (split arg2 ',') := by
  simp only [classify] at h ⊢
  split_ifs at h ⊢ with hemit
  · simp [addError] at h
  · have hnil : collected.emit = [] := List.eq_nil_of_length_eq_zero (not_not.mp hemit)
    exact ⟨hnil, by simp [keep, hnil]⟩

/-- A supported library kind is seen once a `--crate-type` value lists one. -/
theorem classify_libraryKindSeen :
    (collected.classify host type arg1 arg2).libraryKindSeen =
      (collected.libraryKindSeen || (type = .crateType &&
        ("lib" ∈ split arg2 ',' || "rlib" ∈ split arg2 ',' || "staticlib" ∈ split arg2 ','))) := by
  by_cases htype : type = .crateType
  · subst htype
    simp only [classify]
    split_ifs with hboth
    · simp_all [libraryKindSeen, keep]
    · simp [libraryKindSeen, keep, Bool.or_assoc, Bool.or_left_comm]
  · simp [libraryKindSeen, classify_checkedFields_of_ne.2.2 htype, htype]

end Collected

/-- An option the parse finds is never empty. -/
theorem IsOptionWord.ne_empty {option : String} (h : IsOptionWord option) : option ≠ "" := by
  rintro rfl
  exact absurd h (by unfold IsOptionWord; decide)

namespace Collected

variable {host : Host} {collected : Collected} {group : OptionGroup}

theorem step_inputSeen (hwell : group.WellFormed)
    (h : (collected.step host group).errors = collected.errors) :
    (collected.step host group).inputSeen = collected.inputSeen ++ group.inputs := by
  cases group with
  | complete option value =>
    by_cases htype : (getOptionType option).1 = .path
    · simp only [step, htype] at h ⊢
      obtain ⟨hempty, hinput⟩ := classify_path h
      simp [inputSeen, hempty, hinput, OptionGroup.inputs, htype, hwell.1.ne_empty]
    · simp only [step, inputSeen, classify_checkedFields_of_ne.1 htype, OptionGroup.inputs, htype,
        if_false, List.append_nil]
  | _ => simp [step, addError] at h

theorem step_emitSeen (h : (collected.step host group).errors = collected.errors) :
    (collected.step host group).emitSeen = collected.emitSeen ++ group.emitKinds := by
  cases group with
  | complete option value =>
    by_cases htype : (getOptionType option).1 = .emit
    · simp only [step, htype] at h ⊢
      obtain ⟨hempty, hemit⟩ := classify_emit h
      have hkinds : sort (split value ',') ≠ [] := fun hnil =>
        split_ne_nil value ',' (List.Perm.nil_eq (hnil ▸ sort_perm _)).symm
      simp [emitSeen, hempty, hemit, OptionGroup.emitKinds, htype, hkinds]
    · simp only [step, emitSeen, classify_checkedFields_of_ne.2.1 htype, OptionGroup.emitKinds, htype,
        if_false, List.append_nil]
  | _ => simp [step, addError] at h

theorem step_libraryKindSeen :
    (collected.step host group).libraryKindSeen = (collected.libraryKindSeen || group.listsLibraryKind) := by
  cases group with
  | complete option value => simp [step, classify_libraryKindSeen, OptionGroup.listsLibraryKind]
  | _ => simp [step, addError, libraryKindSeen, OptionGroup.listsLibraryKind]

/-! ## What the whole walk does to those fields -/

variable (host) {groups : List OptionGroup}

/-- A group that adds an error from every state leaves one after any walk that holds it. -/
theorem foldl_errors_of_mem (collected : Collected) (hmem : group ∈ groups)
    (h : ∀ collected : Collected, collected.errors.length < (collected.step host group).errors.length) :
    collected.errors.length < (groups.foldl (step host) collected).errors.length := by
  induction groups generalizing collected with
  | nil => simp at hmem
  | cons first groups ih =>
    rcases List.mem_cons.mp hmem with rfl | hmem
    · exact (h collected).trans_le (foldl_errors_length_le host groups _)
    · exact step_errors_length_le.trans_lt (ih _ hmem)

/-- An observation that every error-free step extends by a part of the group is, after a walk
that adds no error, extended by the parts of all groups. -/
theorem foldl_append_of_step {β : Type} (observe : Collected → List β)
    (part : OptionGroup → List β)
    (hstep : ∀ collected : Collected, ∀ group ∈ groups,
      (collected.step host group).errors = collected.errors →
        observe (collected.step host group) = observe collected ++ part group)
    (collected : Collected)
    (h : (groups.foldl (step host) collected).errors.length ≤ collected.errors.length) :
    observe (groups.foldl (step host) collected) = observe collected ++ groups.flatMap part := by
  induction groups generalizing collected with
  | nil => simp
  | cons group groups ih =>
    have hnext : (collected.step host group).errors = collected.errors :=
      step_errors_of_length ((foldl_errors_length_le host groups _).trans h)
    rw [List.foldl_cons, ih (fun c g hg => hstep c g (List.mem_cons_of_mem _ hg)) _ (hnext ▸ h),
      hstep _ _ (List.mem_cons_self _ _) hnext, List.flatMap_cons, List.append_assoc]

theorem foldl_libraryKindSeen (collected : Collected) :
    (groups.foldl (step host) collected).libraryKindSeen =
      (collected.libraryKindSeen || groups.any OptionGroup.listsLibraryKind) := by
  induction groups generalizing collected with
  | nil => simp
  | cons group groups ih => simp [ih, step_libraryKindSeen, Bool.or_assoc]

/-- A walk that ends without errors is made of supported options with their values. -/
theorem supported_of_foldl (collected : Collected)
    (h : (groups.foldl (step host) collected).errors = []) :
    ∀ group ∈ groups, ∃ option value, group = .complete option value ∧
      (getOptionType option).1 ∉ [.unsupported, .unhandled, .responseFile] := by
  have hnever : ∀ group ∈ groups,
      ¬ ∀ collected : Collected, collected.errors.length < (collected.step host group).errors.length :=
    fun group hmem hgrow => by simpa [h] using foldl_errors_of_mem host collected hmem hgrow
  intro group hmem
  cases group with
  | complete option value =>
    refine ⟨option, value, rfl, fun hrejected => hnever _ hmem fun _ => ?_⟩
    simpa using classify_errors_of_rejected (by simpa using hrejected)
  | failed token => exact (hnever _ hmem fun _ => step_errors_of_incomplete rfl).elim
  | missing option => exact (hnever _ hmem fun _ => step_errors_of_incomplete rfl).elim

end Collected

/-! ## The checks after the walk -/

namespace RustWrapper

variable {host : Host} {self : RustWrapper} {collected : Collected}

/-- Everything the verification after the walk checks, read off an accepted walk. -/
theorem finishParse_checks {result : RustWrapper × List String}
    (h : self.finishParse host collected = .ok result) :
    collected.errors = [] ∧ collected.input ≠ "" ∧ collected.emit ≠ [] ∧
      includes collected.emit requiredEmit ∧ includes allowedEmit collected.emit ∧
      collected.outputDir ≠ "" ∧ collected.crateName ≠ "" ∧ collected.libraryKindSeen := by
  unfold finishParse at h
  obtain ⟨herrors, h⟩ := ite_panic_eq_ok h
  obtain ⟨hinput, h⟩ := ite_panic_eq_ok h
  obtain ⟨hemit, h⟩ := ite_panic_eq_ok h
  obtain ⟨houtput, h⟩ := ite_panic_eq_ok h
  obtain ⟨hname, h⟩ := ite_panic_eq_ok h
  obtain ⟨hkind, -⟩ := ite_panic_eq_ok h
  simp only [not_or, Bool.not_eq_true', Bool.not_eq_false, String.isEmpty_iff] at hemit hinput houtput hname
  refine ⟨List.eq_nil_of_length_eq_zero (Nat.eq_zero_of_not_pos herrors), hinput, fun hnil => ?_,
    hemit.2.1, hemit.2.2, houtput, hname, ?_⟩
  · simp [hnil] at hemit
  · simpa [Collected.libraryKindSeen, imp_iff_not_or] using hkind

end RustWrapper

/-- The emitted kinds that pass the check: `link` and `metadata`, with `dep-info` or without.
They lie between the required kinds and the allowed ones, as sub-lists. -/
theorem emit_cases {emit : List String} (hrequired : includes emit requiredEmit)
    (hallowed : includes allowedEmit emit) :
    emit = ["link", "metadata"] ∨ emit = ["dep-info", "link", "metadata"] := by
  have hlower := sublist_of_includes hrequired
  have hupper := sublist_of_includes hallowed
  have hbounds : 2 ≤ emit.length ∧ emit.length ≤ 3 := ⟨hlower.length_le, hupper.length_le⟩
  rcases Nat.eq_or_lt_of_le hbounds.2 with hthree | htwo
  · exact .inr (hupper.eq_of_length hthree)
  · exact .inl (hlower.eq_of_length (by simp [requiredEmit]; omega)).symm

/-- A token whose option is of category `PATH` is the option itself, or a long option `--NAME`
with `NAME` free of `=`, followed by `=` and the value: neither a short option nor `@` is of
that category. -/
theorem token_of_path {token : String} (hsuccess : (parseArgument token).success)
    (htype : (getOptionType (parseArgument token).option).1 = .path) :
    token = (parseArgument token).option ∨
      ∃ name, (parseArgument token).option = "--" ++ name ∧ '=' ∉ name.data ∧
        token = (parseArgument token).option ++ "=" ++ (parseArgument token).argument := by
  obtain ⟨chars⟩ := token
  obtain ⟨_, hgroups⟩ := exists_argumentParser_of_success hsuccess
  have hrecovers := (facts_of_argumentParser hgroups).2.2.2
  generalize parseArgument ⟨chars⟩ = info at htype hrecovers ⊢
  unfold Recovers at hrecovers
  split_ifs at hrecovers with hlong hshort hat
  · obtain ⟨rest, rfl⟩ := exists_of_take_two hlong.1
    refine .inr ⟨⟨rest.takeWhile (· != '=')⟩, String.ext ?_, fun hmem => ?_, hrecovers.2⟩
    · rw [hrecovers.1]; rfl
    · simpa using List.mem_takeWhile_imp hmem
  · obtain ⟨letter, hletter, htake⟩ := hshort
    have hoption : info.option = ⟨['-', letter]⟩ := String.ext (hrecovers.1.trans htake)
    have hshortTypes : ∀ letter ∈ shortOptionLetters, (getOptionType ⟨['-', letter]⟩).1 ≠ .path := by
      decide
    exact absurd (hoption ▸ htype) (hshortTypes letter hletter)
  · rw [hrecovers.1] at htype
    exact absurd htype (by decide)
  · exact .inl hrecovers.1.symm

/-- Only options outside the table are of category `PATH`, and they take no value. -/
theorem getOptionType_path {option : String} (h : (getOptionType option).1 = .path) :
    getOptionType option = (.path, .no) := by
  have hnotTable : ∀ entry ∈ optionSpecification, entry.2.1 ≠ .path := by decide
  refine (getOptionType_mem option).resolve_left fun hmem => hnotTable _ hmem h

/-- An option of category `PATH` is not in the table. -/
theorem not_mem_optionSpecification_of_path {option : String}
    (h : (getOptionType option).1 = .path) : option ∉ optionSpecification.map Prod.fst := by
  have hnotTable : ∀ entry ∈ optionSpecification, entry.2.1 ≠ .path := by decide
  intro hmem
  unfold getOptionType at h
  cases hlookup : optionSpecification.lookup option with
  | none =>
    obtain ⟨entry, hentry, rfl⟩ := List.mem_map.mp hmem
    simpa using List.lookup_eq_none_iff.mp hlookup entry hentry
  | some found =>
    obtain ⟨front, back, htable, -⟩ := List.lookup_eq_some_iff.mp hlookup
    rw [hlookup, Option.getD_some] at h
    exact hnotTable (option, found) (by rw [htable]; simp) h

/-- Only `--crate-type` is a `CRATE_TYPE` option. -/
theorem getOptionType_crateType {option : String} (h : (getOptionType option).1 = .crateType) :
    option = "--crate-type" := by
  have hmem := mem_optionSpecification (by rw [h]; exact nofun)
  generalize getOptionType option = entry at h hmem
  obtain ⟨kind, has⟩ := entry
  subst h
  simp only [optionSpecification] at hmem
  simp_all

/-- The input named by the only `PATH` group stands in a token of its own: alone, or, when it
is a long option `--NAME` outside the table with `NAME` free of `=`, followed by `=` and a
value. -/
theorem inputToken_of_inputs {arguments : List String} {input : String}
    (h : (optionGroups arguments).flatMap OptionGroup.inputs = [input]) :
    [input] ∈ optionSegments arguments ∨
      ∃ name value, input = "--" ++ name ∧ '=' ∉ name.data ∧
        input ∉ optionSpecification.map Prod.fst ∧
        [input ++ "=" ++ value] ∈ optionSegments arguments := by
  obtain ⟨group, hgroup, hin⟩ := List.mem_flatMap.mp (h ▸ List.mem_singleton_self input)
  cases group with
  | complete option value =>
    simp only [OptionGroup.inputs] at hin
    split_ifs at hin with htype
    · obtain rfl := List.mem_singleton.mp hin
      obtain ⟨token, hsegment, hparse⟩ :=
        exists_segment_of_complete hgroup (by rw [getOptionType_path htype])
      have hsuccess : (parseArgument token).success := by rw [hparse]; rfl
      rcases token_of_path hsuccess (by rw [hparse]; exact htype) with htoken |
        ⟨name, hname, hnoEq, htoken⟩ <;> rw [hparse] at htoken <;> subst htoken
      · exact .inl hsegment
      · rw [hparse] at hname
        exact .inr ⟨name, value, hname, hnoEq, not_mem_optionSpecification_of_path htype, hsegment⟩
    · simp at hin
  | _ => simp [OptionGroup.inputs] at hin

/-- A group that lists a supported library kind is a `--crate-type` group. -/
theorem crateType_of_any {groups : List OptionGroup}
    (h : groups.any OptionGroup.listsLibraryKind) :
    ∃ value, .complete "--crate-type" value ∈ groups ∧
      ∃ kind ∈ ["lib", "rlib", "staticlib"], kind ∈ split value ',' := by
  obtain ⟨group, hmem, hlists⟩ := List.any_eq_true.mp h
  cases group with
  | complete option value =>
    simp only [OptionGroup.listsLibraryKind, Bool.and_eq_true, decide_eq_true_eq,
      Bool.or_eq_true] at hlists
    rw [getOptionType_crateType hlists.1] at hmem
    exact ⟨value, hmem, by simpa [or_assoc] using hlists.2⟩
  | _ => simp [OptionGroup.listsLibraryKind] at hlists

/-! ## An accepted command line -/

/-- What an accepted command line looks like. The tokens after the program fall into
consecutive groups of an accepted option and, when it needs one, a non-empty value from the
next token. No group is unsupported, unhandled or a response file. Exactly one group names the
input, which is its option: the token itself, or, for a token `--NAME=VALUE` whose `--NAME` is
not in the option table and `NAME` holds no `=`, the part before the `=`. Exactly one group is an `--emit`, whose sorted kinds are `link` and `metadata`, with
`dep-info` or without. The output directory and the crate name are set, and some
`--crate-type` value lists `lib`, `rlib` or `staticlib`. -/
structure AcceptedShape (arguments : List String) (wrapper : RustWrapper) : Prop where
  segments : (optionSegments arguments).flatten = arguments
  accepted : ∀ segment ∈ optionSegments arguments, AcceptedSegment segment
  supported : ∀ group ∈ optionGroups arguments, ∃ option value, group = .complete option value ∧
    (getOptionType option).1 ∉ [.unsupported, .unhandled, .responseFile]
  input : (optionGroups arguments).flatMap OptionGroup.inputs = [wrapper.input]
  inputToken : [wrapper.input] ∈ optionSegments arguments ∨
    ∃ name value, wrapper.input = "--" ++ name ∧ '=' ∉ name.data ∧
      wrapper.input ∉ optionSpecification.map Prod.fst ∧
      [wrapper.input ++ "=" ++ value] ∈ optionSegments arguments
  emit : (optionGroups arguments).flatMap OptionGroup.emitKinds = [wrapper.emit]
  emitKinds : wrapper.emit = ["link", "metadata"] ∨ wrapper.emit = ["dep-info", "link", "metadata"]
  outputDir : wrapper.outputDir ≠ ""
  crateName : wrapper.crateName ≠ ""
  crateType : ∃ value, .complete "--crate-type" value ∈ optionGroups arguments ∧
    ∃ kind ∈ ["lib", "rlib", "staticlib"], kind ∈ split value ','

/-- Every command line that `parse_options` accepts has the accepted shape. -/
theorem parseOptions_accepted_shape {host : Host} {self wrapper : RustWrapper} {program : String}
    {arguments parsed : List String}
    (h : self.parseOptions host (program :: arguments) = .ok (wrapper, parsed)) :
    AcceptedShape arguments wrapper := by
  obtain ⟨-, rfl, -⟩ := RustWrapper.parseOptions_ok h
  rw [parseOptions_eq] at h
  obtain ⟨herrors, hinput, hemit, hrequired, hallowed, houtput, hname, hkind⟩ :=
    RustWrapper.finishParse_checks h
  have hclean : ((optionGroups arguments).foldl (Collected.step host)
      { parsedArgs := [program] }).errors.length ≤ ({ parsedArgs := [program] } : Collected).errors.length := by
    simp [herrors]
  have hsupported := Collected.supported_of_foldl host _ herrors
  have hinputs := Collected.foldl_append_of_step host Collected.inputSeen OptionGroup.inputs
    (fun _ _ hmem => Collected.step_inputSeen (wellFormed_of_mem_optionGroups hmem)) _ hclean
  have hemits := Collected.foldl_append_of_step host Collected.emitSeen OptionGroup.emitKinds
    (fun _ _ _ => Collected.step_emitSeen) _ hclean
  simp only [Collected.inputSeen, Collected.emitSeen, hinput, hemit, if_false, List.nil_append]
    at hinputs hemits
  rw [Collected.foldl_libraryKindSeen] at hkind
  exact ⟨flatten_optionSegments arguments, acceptedSegment_of_complete fun group hmem => by
      obtain ⟨_, _, rfl, -⟩ := hsupported group hmem; rfl,
    hsupported, hinputs.symm, inputToken_of_inputs hinputs.symm, hemits.symm,
    emit_cases hrequired hallowed, houtput, hname,
    crateType_of_any (by simpa [Collected.libraryKindSeen] using hkind)⟩

/-- The cargo invocation has the accepted shape. -/
theorem cargoArguments_accepted_shape :
    ∃ wrapper parsed,
      (RustWrapper.create []).parseOptions (Host.sample fun _ => false) ("rustc" :: cargoArguments) =
        .ok (wrapper, parsed) ∧ AcceptedShape cargoArguments wrapper :=
  ⟨_, _, rfl, @parseOptions_accepted_shape (Host.sample fun _ => false) (RustWrapper.create []) _
    "rustc" cargoArguments _ rfl⟩

/-- A command line that gives its source as `--source=src/lib.rs`. -/
def sourceOptionArguments : List String :=
  ["--crate-name", "foo", "--crate-type", "lib", "--emit=link,metadata", "--out-dir", "out",
    "--source=src/lib.rs"]

/-- The input of an accepted command line need not be one of its tokens: `--source=src/lib.rs`
is the `PATH` group, and the input is `--source`. -/
theorem input_not_a_token :
    ∃ wrapper parsed,
      (RustWrapper.create []).parseOptions (Host.sample fun _ => false)
          ("rustc" :: sourceOptionArguments) = .ok (wrapper, parsed) ∧
        wrapper.input = "--source" ∧ wrapper.input ∉ sourceOptionArguments :=
  ⟨_, _, rfl, by decide, by decide⟩

end BuildCache.Rust

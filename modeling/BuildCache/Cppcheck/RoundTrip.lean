/-
# Printing argument pairs back and splitting them again

The preprocessor command of the Cppcheck wrapper is the program, the pairs without
`--output-file` printed back with `arg_pair_t::get`, and `-E`. Splitting that command
again gives the same pairs followed by `(-E, "", false)` as long as no pair is a
two-part option without a value: such a pair prints as the option alone, and the
split then takes the next token, the `-E` included, as its value. A command line
ending in `-D` is one.

The proof goes pair by pair: each pair a split produces, other than a valueless
two-part option, splits back to itself in front of any rest of the command line.
-/

import BuildCache.Cppcheck.Wrapper

namespace BuildCache.Cppcheck

open StringList

/-- A pair that prints as a two-part option alone, which takes the next token when the
command is split again. -/
def ArgPair.absorbsNext (pair : ArgPair) : Bool :=
  isTwoPartArg pair.arg && pair.opt == "" && !pair.equalSeparator

/-- A pair printed in front of any rest splits back to itself. -/
def RoundTrips (pair : ArgPair) : Prop :=
  ∀ rest, splitPairs (pair.get ++ rest) = pair :: splitPairs rest

/-! ## The split of one token -/

/-- The two-part options are two characters long. -/
theorem isTwoPartArg_take {arg : String} (h : isTwoPartArg arg) : (⟨arg.data.take 2⟩ : String) = arg := by
  simp only [isTwoPartArg, List.mem_cons, List.mem_singleton, List.not_mem_nil, or_false,
    decide_eq_true_eq] at h
  rcases h with rfl | rfl | rfl | rfl | rfl | rfl <;> rfl

theorem splitPairs_cons_of_not_twoPart {arg : String} (h : isTwoPartArg arg = false)
    (rest : List String) : splitPairs (arg :: rest) = splitSingle arg :: splitPairs rest := by
  cases rest <;> simp [splitPairs, h]

theorem splitPairs_twoPart {arg : String} (h : isTwoPartArg arg) (next : String)
    (rest : List String) : splitPairs (arg :: next :: rest) = ⟨arg, next, false⟩ :: splitPairs rest := by
  simp [splitPairs, h]

/-- `span` at the first `=` cuts the token around it. -/
theorem eq_of_span_eq_cons {chars before after : List Char} {c : Char}
    (h : chars.span (· != '=') = (before, c :: after)) : chars = before ++ '=' :: after := by
  rw [List.span_eq_take_drop, Prod.mk.injEq] at h
  have hc := List.head_dropWhile_not (· != '=') chars (by simp [h.2])
  simp only [h.2, List.head_cons, bne_eq_false_iff_eq] at hc
  rw [← List.takeWhile_append_dropWhile (· != '=') chars, h.1, h.2, hc]

/-- A two-part option with a value splits back to itself. -/
theorem roundTrips_twoPart {arg next : String} (h : isTwoPartArg arg) (hnext : next ≠ "") :
    RoundTrips ⟨arg, next, false⟩ := by
  intro rest
  simp [ArgPair.get, isEmpty_eq_false hnext, splitPairs_twoPart h]

/-- A token that is not a two-part option prints back to itself. -/
theorem get_splitSingle {arg : String} (h : isTwoPartArg ⟨arg.data.take 2⟩ = false) :
    (splitSingle arg).get = [arg] := by
  unfold splitSingle
  simp only [h, Bool.false_eq_true, if_false]
  split
  · rename_i before c after hspan
    simp only [ArgPair.get, if_true, List.cons.injEq, and_true]
    exact String.ext (by simp [eq_of_span_eq_cons hspan])
  · rfl

/-- Every pair of one token splits back to itself, unless it is a valueless two-part
option. -/
theorem roundTrips_splitSingle {arg : String} (h : (splitSingle arg).absorbsNext = false) :
    RoundTrips (splitSingle arg) := by
  by_cases htwo : isTwoPartArg ⟨arg.data.take 2⟩
  · have hsplit : splitSingle arg = ⟨⟨arg.data.take 2⟩, ⟨arg.data.drop 2⟩, false⟩ := by
      simp [splitSingle, htwo]
    rw [hsplit] at h ⊢
    refine roundTrips_twoPart htwo fun hempty => ?_
    simp [ArgPair.absorbsNext, htwo, hempty] at h
  · have hnot : isTwoPartArg arg = false := by
      by_contra hpart
      exact htwo (by rw [isTwoPartArg_take (Bool.not_eq_false _ ▸ hpart)]; simpa using hpart)
    intro rest
    rw [get_splitSingle (by simpa using htwo), List.singleton_append,
      splitPairs_cons_of_not_twoPart hnot]

/-- Every pair a split produces splits back to itself, unless it is a valueless two-part
option. -/
theorem roundTrips_of_mem_splitPairs {arguments : List String} :
    ∀ pair ∈ splitPairs arguments, pair.absorbsNext = false → RoundTrips pair := by
  induction arguments using splitPairs.induct with
  | case1 => simp [splitPairs]
  | case2 arg =>
    simp only [splitPairs, List.mem_singleton, forall_eq]
    exact roundTrips_splitSingle
  | case3 arg next rest htwo ih =>
    simp only [splitPairs_twoPart htwo, List.mem_cons, forall_eq_or_imp]
    refine ⟨fun h => roundTrips_twoPart htwo fun hnext => ?_, ih⟩
    simp [ArgPair.absorbsNext, htwo, hnext] at h
  | case4 arg next rest htwo ih =>
    simp only [splitPairs_cons_of_not_twoPart (by simpa using htwo), List.mem_cons,
      forall_eq_or_imp]
    exact ⟨roundTrips_splitSingle, ih⟩

/-- Pairs that each split back to themselves do so in sequence. -/
theorem splitPairs_flatMap_get {pairs : List ArgPair} (h : ∀ pair ∈ pairs, RoundTrips pair)
    (rest : List String) : splitPairs (pairs.flatMap ArgPair.get ++ rest) = pairs ++ splitPairs rest := by
  induction pairs with
  | nil => rfl
  | cons pair pairs ih =>
    simp only [List.mem_cons, forall_eq_or_imp] at h
    rw [List.flatMap_cons, List.append_assoc, h.1, ih h.2, List.cons_append]

/-! ## The preprocessor command -/

namespace CppcheckWrapper

/-- An accepted command line keeps its tokens and holds the pairs of the tokens after the
program. -/
theorem parseArguments_ok {host : Host} {self wrapper : CppcheckWrapper}
    (h : self.parseArguments host = .ok wrapper) :
    wrapper = { self with argPairs := splitPairs self.args.tail } := by
  simp only [parseArguments] at h
  split at h
  · cases h
  · exact (Except.ok.inj h).symm

end CppcheckWrapper

/-- Splitting the preprocessor command of an accepted command line again gives its pairs
without `--output-file`, followed by `-E`, when no pair is a valueless two-part option. -/
theorem preprocessorCmd_resplit {host : Host} {program : String} {arguments : List String}
    {wrapper : CppcheckWrapper}
    (h : (CppcheckWrapper.create (program :: arguments)).parseArguments host = .ok wrapper)
    (hpairs : ∀ pair ∈ wrapper.argPairs, pair.absorbsNext = false) :
    wrapper.makePreprocessorCmd.map (fun cmd => splitPairs cmd.tail) =
      some (wrapper.argPairs.filter (fun pair => pair.arg ≠ "--output-file") ++ [⟨"-E", "", false⟩]) := by
  have hwrapper := CppcheckWrapper.parseArguments_ok h
  have hargs : wrapper.args = program :: arguments := by rw [hwrapper]; rfl
  have hsplit : wrapper.argPairs = splitPairs arguments := by rw [hwrapper]; rfl
  have hround : ∀ pair ∈ wrapper.argPairs.filter (fun pair => pair.arg ≠ "--output-file"),
      RoundTrips pair := fun pair hmem =>
    have hmem' := (List.mem_filter.mp hmem).1
    roundTrips_of_mem_splitPairs pair (hsplit ▸ hmem') (hpairs pair hmem')
  simp only [CppcheckWrapper.makePreprocessorCmd, hargs, List.head?_cons, Option.map_some',
    List.cons_append, List.tail_cons]
  rw [splitPairs_flatMap_get hround]
  rfl

/-- The command line of the specification's worked example. -/
def sampleCommandLine : List String :=
  ["cppcheck", "-DFOO=bar", "--enable=all", "-I", "include", "src.cpp", "--output-file=out.xml"]

/-- The worked example's preprocessor command splits back to its pairs. -/
theorem sampleCommandLine_resplit :
    ∃ wrapper, (CppcheckWrapper.create sampleCommandLine).parseArguments (Host.sample fun _ => true) =
        .ok wrapper ∧
      (∀ pair ∈ wrapper.argPairs, pair.absorbsNext = false) ∧
      wrapper.makePreprocessorCmd.map (fun cmd => splitPairs cmd.tail) =
        some (wrapper.argPairs.filter (fun pair => pair.arg ≠ "--output-file") ++ [⟨"-E", "", false⟩]) :=
  have hpairs : ∀ pair ∈ splitPairs sampleCommandLine.tail, pair.absorbsNext = false := by decide
  ⟨_, rfl, hpairs, @preprocessorCmd_resplit (Host.sample fun _ => true) "cppcheck"
    sampleCommandLine.tail _ rfl hpairs⟩

/-- A trailing `-D` takes the appended `-E` as its value. -/
theorem trailingDefine_absorbs_E :
    ∃ wrapper, (CppcheckWrapper.create ["cppcheck", "-D"]).parseArguments (Host.sample fun _ => true) =
        .ok wrapper ∧
      wrapper.argPairs = [⟨"-D", "", false⟩] ∧
      wrapper.makePreprocessorCmd.map (fun cmd => splitPairs cmd.tail) = some [⟨"-D", "-E", false⟩] :=
  ⟨_, rfl, by decide, by decide⟩

end BuildCache.Cppcheck

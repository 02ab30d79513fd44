/-
# Values the Cppcheck fingerprint does not see

The relevant arguments of a Cppcheck command line leave out the `-I`, `-D` and `-U` pairs,
whose effect is already in the preprocessed source, and keep `--output-file` without its
file name. So a change of the value of such an option, glued (`-DX`) or in the next token
(`-D X`), or of the file name in `--output-file=NAME`, leaves them as they were. The
pairing of the tokens does not move under such a change: a two-part option takes the next
token whatever it holds, and a glued value takes none. An edit is made at a pair boundary,
where the option is an option and not the value of the token before it.
-/

import Mathlib.Logic.Relation
import BuildCache.Cppcheck.RoundTrip

namespace BuildCache.Cppcheck

/-- The splitting of these tokens ends at a pair boundary: it never takes the token after them
as a value. -/
def endsAtPair : List String → Bool
  | [] => true
  | [arg] => !isTwoPartArg arg
  | arg :: next :: rest => if isTwoPartArg arg then endsAtPair rest else endsAtPair (next :: rest)

/-- At a pair boundary the split of a command line splits. -/
theorem splitPairs_append {front : List String} (h : endsAtPair front) (back : List String) :
    splitPairs (front ++ back) = splitPairs front ++ splitPairs back := by
  induction front using splitPairs.induct with
  | case1 => rfl
  | case2 arg =>
    have hnot : isTwoPartArg arg = false := by simpa [endsAtPair] using h
    rw [List.singleton_append, splitPairs_cons_of_not_twoPart hnot]
    rfl
  | case3 arg next rest htwo ih =>
    simp only [endsAtPair, htwo, if_true] at h
    rw [List.cons_append, List.cons_append, splitPairs_twoPart htwo, splitPairs_twoPart htwo, ih h,
      List.cons_append]
  | case4 arg next rest htwo ih =>
    have hnot : isTwoPartArg arg = false := by simpa using htwo
    simp only [endsAtPair, hnot, Bool.false_eq_true, if_false] at h
    rw [List.cons_append, splitPairs_cons_of_not_twoPart hnot, ih h,
      splitPairs_cons_of_not_twoPart hnot, List.cons_append]

/-- The options whose values the relevant arguments leave out. -/
def preprocessorOptions : List String := ["-I", "-D", "-U"]

/-- One edit of a command line that changes only what the fingerprint should not see: the value
of a preprocessor option, in the next token or glued, or the file name of `--output-file=`. -/
inductive ValueEdit : List String → List String → Prop
  | separate {front back : List String} {option value value' : String} :
      endsAtPair front → option ∈ preprocessorOptions →
      ValueEdit (front ++ option :: value :: back) (front ++ option :: value' :: back)
  | glued {front back : List String} {option value value' : String} :
      endsAtPair front → option ∈ preprocessorOptions → value ≠ "" → value' ≠ "" →
      ValueEdit (front ++ (option ++ value) :: back) (front ++ (option ++ value') :: back)
  | outputFile {front back : List String} {name name' : String} :
      endsAtPair front →
      ValueEdit (front ++ ("--output-file=" ++ name) :: back)
        (front ++ ("--output-file=" ++ name') :: back)

/-! ## The pairs an edit touches -/

theorem length_of_isTwoPartArg {arg : String} (h : isTwoPartArg arg) : arg.length = 2 := by
  simp only [isTwoPartArg, List.mem_cons, List.mem_singleton, List.not_mem_nil, or_false,
    decide_eq_true_eq] at h
  rcases h with rfl | rfl | rfl | rfl | rfl | rfl <;> rfl

/-- A token of another length is never a two-part option. -/
theorem isTwoPartArg_of_length {arg : String} (h : arg.length ≠ 2) : isTwoPartArg arg = false :=
  Bool.eq_false_iff.mpr fun htwo => h (length_of_isTwoPartArg htwo)

theorem length_pos_of_ne {value : String} (h : value ≠ "") : 0 < value.length := by
  rw [String.length, List.length_pos]
  exact fun hnil => h (String.ext hnil)

theorem isTwoPartArg_of_mem {option : String} (h : option ∈ preprocessorOptions) :
    isTwoPartArg option := by
  simp only [preprocessorOptions, List.mem_cons, List.mem_singleton, List.not_mem_nil,
    or_false] at h
  rcases h with rfl | rfl | rfl <;> rfl

/-- A preprocessor option with a glued value is cut after its two characters and takes no
further token. -/
theorem splitPairs_glued {option value : String} (hoption : option ∈ preprocessorOptions)
    (hvalue : value ≠ "") (rest : List String) :
    splitPairs ((option ++ value) :: rest) = ⟨option, value, false⟩ :: splitPairs rest := by
  have htwo := isTwoPartArg_of_mem hoption
  have hlength := length_of_isTwoPartArg htwo
  have hlong : (option ++ value).length ≠ 2 := by
    rw [String.length_append, hlength]; have := length_pos_of_ne hvalue; omega
  rw [splitPairs_cons_of_not_twoPart (isTwoPartArg_of_length hlong)]
  have htake : (option ++ value).data.take 2 = option.data := by
    rw [String.data_append, List.take_left' hlength]
  have hdrop : (option ++ value).data.drop 2 = value.data := by
    rw [String.data_append, List.drop_left' hlength]
  simp only [splitSingle, htake, hdrop, isTwoPartArg_take htwo, htwo, if_true]

/-- `--output-file=NAME` is cut at its `=`. -/
theorem splitPairs_outputFile (name : String) (rest : List String) :
    splitPairs (("--output-file=" ++ name) :: rest) = ⟨"--output-file", name, true⟩ :: splitPairs rest := by
  have hlong : ("--output-file=" ++ name).length ≠ 2 := by
    rw [String.length_append, show "--output-file=".length = 14 from rfl]; omega
  rw [splitPairs_cons_of_not_twoPart (isTwoPartArg_of_length hlong)]
  rfl

/-- The preprocessor options count for nothing in the relevant arguments. -/
theorem relevantTokens_preprocessor {option : String} (h : option ∈ preprocessorOptions)
    (value : String) : CppcheckWrapper.relevantTokens ⟨option, value, false⟩ = [] := by
  simp only [preprocessorOptions, List.mem_cons, List.mem_singleton, List.not_mem_nil,
    or_false] at h
  rcases h with rfl | rfl | rfl <;> rfl

/-! ## Edits leave the relevant arguments alone -/

/-- One edit leaves the relevant tokens of the pairs as they were. -/
theorem relevantTokens_of_edit {arguments arguments' : List String}
    (h : ValueEdit arguments arguments') :
    (splitPairs arguments).flatMap CppcheckWrapper.relevantTokens =
      (splitPairs arguments').flatMap CppcheckWrapper.relevantTokens := by
  cases h with
  | separate hfront hoption =>
    simp [splitPairs_append hfront, splitPairs_twoPart (isTwoPartArg_of_mem hoption),
      relevantTokens_preprocessor hoption]
  | glued hfront hoption hvalue hvalue' =>
    simp [splitPairs_append hfront, splitPairs_glued hoption hvalue, splitPairs_glued hoption hvalue',
      relevantTokens_preprocessor hoption]
  | outputFile hfront =>
    simp [splitPairs_append hfront, splitPairs_outputFile, CppcheckWrapper.relevantTokens]

/-- Any run of edits, in either direction, leaves the relevant tokens as they were. -/
theorem relevantTokens_of_eqvGen {arguments arguments' : List String}
    (h : Relation.EqvGen ValueEdit arguments arguments') :
    (splitPairs arguments).flatMap CppcheckWrapper.relevantTokens =
      (splitPairs arguments').flatMap CppcheckWrapper.relevantTokens := by
  induction h with
  | rel _ _ hedit => exact relevantTokens_of_edit hedit
  | refl => rfl
  | symm _ _ _ ih => exact ih.symm
  | trans _ _ _ _ _ ih ih' => exact ih.trans ih'

/-- Two accepted command lines that differ only in the values of `-I`, `-D` and `-U` and in the
file name of `--output-file=` have the same relevant arguments. -/
theorem relevantArguments_ignore_values {host : Host} {program : String}
    {arguments arguments' : List String} {wrapper wrapper' : CppcheckWrapper}
    (hedit : Relation.EqvGen ValueEdit arguments arguments')
    (h : (CppcheckWrapper.create (program :: arguments)).parseArguments host = .ok wrapper)
    (h' : (CppcheckWrapper.create (program :: arguments')).parseArguments host = .ok wrapper') :
    wrapper.getRelevantArguments host = wrapper'.getRelevantArguments host := by
  rw [CppcheckWrapper.parseArguments_ok h, CppcheckWrapper.parseArguments_ok h']
  simp only [CppcheckWrapper.getRelevantArguments, CppcheckWrapper.create, List.head?_cons,
    List.tail_cons, Option.map_some', relevantTokens_of_eqvGen hedit]

/-- Two include directories of one command line give the same relevant arguments. -/
theorem includeDirectory_ignored :
    Relation.EqvGen ValueEdit ["-I", "include", "src.cpp"] ["-I", "other", "src.cpp"] ∧
      ∃ wrapper wrapper',
        (CppcheckWrapper.create ["cppcheck", "-I", "include", "src.cpp"]).parseArguments
          (Host.sample fun _ => true) = .ok wrapper ∧
        (CppcheckWrapper.create ["cppcheck", "-I", "other", "src.cpp"]).parseArguments
          (Host.sample fun _ => true) = .ok wrapper' ∧
        wrapper.getRelevantArguments (Host.sample fun _ => true) =
          wrapper'.getRelevantArguments (Host.sample fun _ => true) :=
  have hedit : Relation.EqvGen ValueEdit ["-I", "include", "src.cpp"] ["-I", "other", "src.cpp"] :=
    .rel _ _ (@ValueEdit.separate [] ["src.cpp"] "-I" "include" "other" rfl (by decide))
  ⟨hedit, _, _, rfl, rfl, relevantArguments_ignore_values hedit rfl rfl⟩

end BuildCache.Cppcheck

/-
# The build files of a Cppcheck command line

`get_build_files` maps `output_file` to the value of an `--output-file` pair, marked as
required. Its loop is meant to reject a second such pair, but the flag it tests,
`found_output_file`, is never set: the loop never fails, and a later `--output-file`
overwrites an earlier one.
-/

import BuildCache.Cppcheck.Wrapper

namespace BuildCache.Cppcheck

/-- The entry a value of `--output-file` gives. -/
def outputFileEntry (pair : ArgPair) : String × ExpectedFile := ("output_file", ⟨pair.opt, true⟩)

namespace CppcheckWrapper

/-- With the flag never set, one iteration never fails. -/
theorem buildFileStep_false (files : OrderedMap ExpectedFile) (pair : ArgPair) :
    buildFileStep false files pair =
      .ok (if pair.arg = "--output-file" then files.assign "output_file" ⟨pair.opt, true⟩
        else files) := by
  unfold buildFileStep
  split_ifs <;> first | rfl | contradiction

/-- The loop never fails, and holds the entry of the last `--output-file` pair so far. -/
theorem foldlM_buildFileStep (pairs : List ArgPair) :
    ∃ files, pairs.foldlM (buildFileStep false) .empty = .ok files ∧
      files.entries = ((pairs.filter (·.arg = "--output-file")).getLast?.map outputFileEntry).toList := by
  induction pairs using List.reverseRecOn with
  | nil => exact ⟨.empty, rfl, rfl⟩
  | append_singleton pairs pair ih =>
    obtain ⟨files, hfold, hentries⟩ := ih
    simp only [List.foldlM_append, hfold, List.foldlM_cons, List.foldlM_nil, buildFileStep_false]
    by_cases houtput : pair.arg = "--output-file"
    · refine ⟨_, rfl, ?_⟩
      simp only [houtput, if_true, OrderedMap.assign, List.filter_append, List.filter_singleton,
        decide_True, cond_true, List.getLast?_append, List.getLast?_singleton, Option.or_some,
        Option.map_some', Option.toList_some, hentries]
      cases (pairs.filter (·.arg = "--output-file")).getLast? with
      | none => rfl
      | some last =>
        have hsame : ¬ StringList.charsLt "output_file" "output_file" := by decide
        simp [OrderedMap.insertEntry, outputFileEntry, hsame]
    · refine ⟨_, rfl, ?_⟩
      simp [houtput, List.getLast?_append, hentries]

/-- `get_build_files` never fails: it returns the entry of the last `--output-file` pair, or
nothing when there is none. -/
theorem getBuildFiles_entries (wrapper : CppcheckWrapper) :
    wrapper.getBuildFiles.map OrderedMap.entries =
      .ok ((wrapper.argPairs.filter (·.arg = "--output-file")).getLast?.map outputFileEntry).toList := by
  obtain ⟨files, hfold, hentries⟩ := foldlM_buildFileStep wrapper.argPairs
  rw [getBuildFiles, hfold, ← hentries]
  rfl

end CppcheckWrapper

/-- A command line with two `--output-file` options is accepted, and its build files hold the
second one. -/
theorem twoOutputFiles_accepted :
    ∃ wrapper, (CppcheckWrapper.create
        ["cppcheck", "--output-file=a.xml", "--output-file=b.xml", "src.cpp"]).parseArguments
          (Host.sample fun _ => true) = .ok wrapper ∧
      (wrapper.argPairs.filter (·.arg = "--output-file")).length = 2 ∧
      wrapper.getBuildFiles.map OrderedMap.entries = .ok [("output_file", ⟨"b.xml", true⟩)] :=
  ⟨_, rfl, by decide, rfl⟩

end BuildCache.Cppcheck

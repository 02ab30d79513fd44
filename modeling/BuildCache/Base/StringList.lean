/-
# Argument token lists

Every wrapper keeps command lines, environment entries and file lists as a
`string_list_t`. Its implementation is not among the wrapper sources, so the
two operations the wrappers rely on are modelled from the specification: a split
at a separator character yields exactly `k + 1` fields for `k` separators, never
trimming or collapsing empty fields, and a join puts the separator between
neighbours. `std::sort` and `std::includes` on such lists compare strings
lexicographically by character, as `std::string::operator<` does.
-/

import Mathlib.Data.List.Sort
import Mathlib.Data.String.Basic

namespace BuildCache

theorem isEmpty_eq_false {str : String} (h : str ≠ "") : str.isEmpty = false :=
  Bool.eq_false_iff.mpr (mt (String.isEmpty_iff str).mp h)

namespace StringList

/-- Modelled from the spec: the constructor `string_list_t(str, delimiter)`. Splitting at
`delimiter` gives exactly one more field than there are delimiters in `str`; empty fields
are kept. -/
def split (str : String) (delimiter : Char) : List String :=
  (str.data.splitOn delimiter).map String.mk

/-- Modelled from the spec: `string_list_t::join(separator)` without shell quoting. -/
def join (separator : String) (parts : List String) : String :=
  separator.intercalate parts

theorem split_ne_nil (str : String) (delimiter : Char) : split str delimiter ≠ [] := by
  simpa [split, List.splitOn] using List.splitOnP_ne_nil _ str.data

/-- No field of a split holds the delimiter. -/
theorem not_mem_of_mem_splitOn {delimiter : Char} (chars : List Char) :
    ∀ field ∈ chars.splitOn delimiter, delimiter ∉ field := by
  induction chars with
  | nil => simp [List.splitOn]
  | cons c chars ih =>
    obtain ⟨first, rest, hsplit⟩ := List.exists_cons_of_ne_nil
      (List.splitOnP_ne_nil (· == delimiter) chars)
    simp only [List.splitOn, hsplit, List.mem_cons, forall_eq_or_imp] at ih
    by_cases hc : c = delimiter
    · simpa [List.splitOn, hc, hsplit] using ih
    · simpa [List.splitOn, hc, hsplit, Ne.symm hc] using ih

/-- A string free of the delimiter is one field. -/
theorem split_of_not_mem {str : String} {delimiter : Char} (h : delimiter ∉ str.data) :
    split str delimiter = [str] := by
  have single : str.data.splitOn delimiter = [str.data] :=
    List.splitOnP_eq_single _ _ fun c hc heq => h (by simpa using (beq_iff_eq.mp heq) ▸ hc)
  simp [split, single]

/-- The first field ends at the first delimiter. -/
theorem split_append_cons {first : List Char} {delimiter : Char} (rest : List Char)
    (h : delimiter ∉ first) :
    split ⟨first ++ delimiter :: rest⟩ delimiter = ⟨first⟩ :: split ⟨rest⟩ delimiter := by
  have head : (first ++ delimiter :: rest).splitOn delimiter = first :: rest.splitOn delimiter :=
    List.splitOnP_first _ first (fun c hc heq => h (by simpa using (beq_iff_eq.mp heq) ▸ hc))
      delimiter (by simp) rest
  simp [split, head]

/-- Two fields, exactly when the string holds the delimiter once. -/
theorem split_eq_pair_iff {str first second : String} {delimiter : Char} :
    split str delimiter = [first, second] ↔
      str.data = first.data ++ delimiter :: second.data ∧
        delimiter ∉ first.data ∧ delimiter ∉ second.data := by
  constructor
  · intro h
    have fields : str.data.splitOn delimiter = [first.data, second.data] := by
      simp only [split, List.map_eq_cons_iff, List.map_eq_nil_iff] at h
      obtain ⟨f, _, hfs, rfl, s, _, hss, rfl, rfl⟩ := h
      simp [hfs, hss]
    have whole := List.intercalate_splitOn str.data delimiter
    rw [fields] at whole
    exact ⟨by simpa [List.intercalate] using whole.symm,
      not_mem_of_mem_splitOn str.data first.data (by simp [fields]),
      not_mem_of_mem_splitOn str.data second.data (by simp [fields])⟩
  · rintro ⟨hstr, hfirst, hsecond⟩
    rw [show str = ⟨first.data ++ delimiter :: second.data⟩ from String.ext hstr,
      split_append_cons _ hfirst, split_of_not_mem hsecond]

/-- The order `std::sort` and `std::map` use on strings: lexicographic on the characters. -/
def charsLe (a b : String) : Prop := a.data ≤ b.data

instance : DecidableRel charsLe := fun a b => inferInstanceAs (Decidable (a.data ≤ b.data))

instance : IsTotal String charsLe := ⟨fun a b => le_total a.data b.data⟩

instance : IsTrans String charsLe := ⟨fun _ _ _ (h₁ : _ ≤ _) h₂ => le_trans h₁ h₂⟩

instance : IsAntisymm String charsLe := ⟨fun _ _ (h₁ : _ ≤ _) h₂ => String.ext (le_antisymm h₁ h₂)⟩

/-- `std::string::operator<`, as the negation of the reverse total order. -/
def charsLt (a b : String) : Prop := ¬ charsLe b a

instance : DecidableRel charsLt := fun a b => inferInstanceAs (Decidable ¬ charsLe b a)

/-- `std::sort` on a string list. The sorted permutation of a list is unique, so any
stable or unstable sort computes the same list. -/
def sort (list : List String) : List String := list.insertionSort charsLe

theorem sort_perm (list : List String) : (sort list).Perm list := List.perm_insertionSort _ _

theorem sorted_sort (list : List String) : (sort list).Sorted charsLe :=
  List.sorted_insertionSort _ _

/-- Sorting forgets exactly the order of the elements. -/
theorem sort_eq_sort_iff {first second : List String} :
    sort first = sort second ↔ first.Perm second := by
  constructor
  · intro h
    exact (sort_perm first).symm.trans (h ▸ sort_perm second)
  · intro h
    exact List.eq_of_perm_of_sorted ((sort_perm first).trans (h.trans (sort_perm second).symm))
      (sorted_sort first) (sorted_sort second)

/-- `std::includes(first1, last1, first2, last2)` over two sorted ranges: whether every
element of `needles` occurs in `haystack`, as the merge walk of the library decides it. -/
def includes : List String → List String → Bool
  | _, [] => true
  | [], _ :: _ => false
  | candidate :: haystack, needle :: needles =>
    if charsLt needle candidate then false
    else if ¬ charsLt candidate needle then includes haystack needles
    else includes haystack (needle :: needles)

/-- What `std::includes` finds is a sub-list of the range it searches: an equal element is
matched once, a smaller one is skipped. -/
theorem sublist_of_includes : ∀ {haystack needles : List String},
    includes haystack needles → needles.Sublist haystack
  | _, [], _ => List.nil_sublist _
  | [], _ :: _, h => by simp [includes] at h
  | candidate :: haystack, needle :: needles, h => by
    unfold includes at h
    split_ifs at h with hless hgreater
    · exact (sublist_of_includes h).cons _
    · obtain rfl : needle = candidate := antisymm (not_not.mp hgreater) (not_not.mp hless)
      exact (sublist_of_includes h).cons₂ _

end StringList

end BuildCache

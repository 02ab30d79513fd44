/-
# The language of `parse_argument`

`parse_argument` accepts exactly the tokens that are not empty and hold no white space
(`\s` in the "C" locale). The last alternative of `argument_parser`, `(\S+)`, matches
every such token, and every alternative fills a capture group that is not empty, so the
branch that gives up after a successful match is never taken. Nothing of an accepted
token is lost: a long option with `=` is the option, `=` and the value; a short option
is the option followed by its glued value; a response file is `@` followed by the file;
any other token is the option alone.

The proof follows the alternatives in the order the regular expression tries them. Each
one that matches fixes the token's shape; for the last one, the tokens of the earlier
shapes are those the earlier alternatives already claimed.
-/

import BuildCache.Rust.Options

namespace BuildCache.Rust

/-- How an accepted token is rebuilt from the option and the value that `parse_argument`
reads in it, case by case in the grammar's order: a long option with `=`, a dash and one of
the letters `hLlgOoAWDFCVv`, `@` and a file, and any other token. This is the reading to
compare the parse with, so the letters are written out here. -/
def Recovers (token option argument : String) : Prop :=
  if token.data.take 2 = ['-', '-'] ∧ '=' ∈ token.data then
    option.data = token.data.takeWhile (· != '=') ∧ token = option ++ "=" ++ argument
  else if ∃ letter ∈ ['h', 'L', 'l', 'g', 'O', 'o', 'A', 'W', 'D', 'F', 'C', 'V', 'v'],
      token.data.take 2 = ['-', letter] then
    option.data = token.data.take 2 ∧ token = option ++ argument
  else if token.data.head? = some '@' ∧ 2 ≤ token.length then
    option = "@" ∧ argument.data = token.data.tail
  else option = token ∧ argument = ""

instance (token option argument : String) : Decidable (Recovers token option argument) := by
  unfold Recovers; exact inferInstance

/-! ## White space -/

@[simp] theorem noSpace_nil : noSpace [] = true := rfl

@[simp] theorem noSpace_cons (c : Char) (chars : List Char) :
    noSpace (c :: chars) = (!isSpace c && noSpace chars) := rfl

@[simp] theorem noSpace_append (first second : List Char) :
    noSpace (first ++ second) = (noSpace first && noSpace second) := List.all_append

/-- `\S*`: no character is one of the six white-space characters of the "C" locale. -/
theorem noSpace_iff {chars : List Char} :
    noSpace chars ↔ ∀ c ∈ chars, c ∉ [' ', '\t', '\n', '\x0B', '\x0C', '\r'] := by
  simp [noSpace, isSpace, List.all_eq_true, and_assoc]

/-- Inside a token free of white space the name of a long option ends at the first `=`. -/
theorem span_nameChar_of_noSpace {chars : List Char} (h : noSpace chars) :
    chars.span nameChar = (chars.takeWhile (· != '='), chars.dropWhile (· != '=')) := by
  rw [List.span_eq_take_drop]
  induction chars with
  | nil => rfl
  | cons c chars ih =>
    simp only [noSpace_cons, Bool.and_eq_true, Bool.not_eq_true'] at h
    have hname : nameChar c = (c != '=') := by simp [nameChar, h.1]
    simp only [List.takeWhile_cons, List.dropWhile_cons, hname]
    split <;> simp_all

/-- The part of a token from its first `=` on. -/
theorem dropWhile_ne_eq {chars : List Char} (h : '=' ∈ chars) :
    chars.dropWhile (· != '=') = '=' :: (chars.dropWhile (· != '=')).tail := by
  have hne : chars.dropWhile (· != '=') ≠ [] := fun hnil => by
    simpa using List.dropWhile_eq_nil_iff.mp hnil '=' h
  have hhead := List.head_dropWhile_not (· != '=') chars hne
  rw [← List.head_cons_tail _ hne]
  simp only [bne_eq_false_iff_eq] at hhead
  simp [hhead]

theorem noSpace_of_suffix {first second : List Char} (h : first <:+ second) (hspace : noSpace second) :
    noSpace first :=
  List.all_eq_true.mpr fun c hc => List.all_eq_true.mp hspace c (h.subset hc)

theorem exists_of_take_two {chars : List Char} {first second : Char}
    (h : chars.take 2 = [first, second]) : ∃ rest, chars = first :: second :: rest :=
  ⟨chars.drop 2, by rw [← List.take_append_drop 2 chars, h]; rfl⟩

/-! ## Tokens that an alternative claims -/

theorem longOptionMatch_ne_none {rest : List Char} (hspace : noSpace rest) (h : '=' ∈ rest) :
    longOptionMatch ('-' :: '-' :: rest) ≠ none := by
  have hvalue : noSpace (rest.dropWhile (· != '=')).tail :=
    noSpace_of_suffix ((List.tail_suffix _).trans (List.dropWhile_suffix _)) hspace
  rw [longOptionMatch, span_nameChar_of_noSpace hspace, dropWhile_ne_eq h]
  simp [hvalue]

theorem shortOptionMatch_ne_none {letter : Char} {rest : List Char}
    (hletter : letter ∈ shortOptionLetters) (hspace : noSpace rest) :
    shortOptionMatch ('-' :: letter :: rest) ≠ none := by
  simp [shortOptionMatch, hletter, hspace]

theorem responseFileMatch_ne_none {c : Char} {rest : List Char} (hspace : noSpace (c :: rest)) :
    responseFileMatch ('@' :: c :: rest) ≠ none := by
  simp [responseFileMatch, hspace]

/-! ## The alternative that matches -/

variable {chars : List Char} {groups : ArgumentGroups}

/-- A long option with a value: it is rebuilt around its first `=`. -/
theorem facts_of_longOptionMatch (h : longOptionMatch chars = some groups) :
    chars ≠ [] ∧ noSpace chars ∧ (parseArgument ⟨chars⟩).success ∧
      Recovers ⟨chars⟩ (parseArgument ⟨chars⟩).option (parseArgument ⟨chars⟩).argument := by
  obtain ⟨name, value, rfl, hname, hvalue, rfl⟩ := longOptionMatch_eq_some h
  have hnoEq : ∀ c ∈ name, (c != '=') = true := fun c hc => by
    have := hname c hc
    simp only [nameChar, Bool.and_eq_true] at this
    exact this.1
  have hspace : noSpace name := List.all_eq_true.mpr fun c hc => by
    have := hname c hc
    simp only [nameChar, Bool.and_eq_true] at this
    exact this.2
  have hparse : parseArgument ⟨'-' :: '-' :: (name ++ '=' :: value)⟩ =
      .found ⟨'-' :: '-' :: name⟩ ⟨value⟩ := by
    simp [parseArgument, argumentParser, h, String.length]
  refine ⟨List.cons_ne_nil _ _, by simp [hspace, hvalue, isSpace], by rw [hparse]; rfl, ?_⟩
  rw [hparse, Recovers, if_pos (by simp)]
  exact ⟨by simp [OptionInfo.found, List.takeWhile_append_of_pos hnoEq],
    String.ext (by simp [OptionInfo.found])⟩

/-- A short option: it is rebuilt from its two characters and its glued value. -/
theorem facts_of_shortOptionMatch (hlong : longOptionMatch chars = none)
    (h : shortOptionMatch chars = some groups) :
    chars ≠ [] ∧ noSpace chars ∧ (parseArgument ⟨chars⟩).success ∧
      Recovers ⟨chars⟩ (parseArgument ⟨chars⟩).option (parseArgument ⟨chars⟩).argument := by
  obtain ⟨letter, rest, rfl, hletter, hrest, rfl⟩ := shortOptionMatch_eq_some h
  have hparse : parseArgument ⟨'-' :: letter :: rest⟩ = .found ⟨['-', letter]⟩ ⟨rest⟩ := by
    simp [parseArgument, argumentParser, hlong, h, String.length]
  have hnotDash : letter ≠ '-' := by
    rintro rfl
    simp [shortOptionLetters] at hletter
  have hspace : isSpace letter = false := by
    simp only [shortOptionLetters, List.mem_cons, List.mem_singleton, List.not_mem_nil,
      or_false] at hletter
    rcases hletter with rfl | rfl | rfl | rfl | rfl | rfl | rfl | rfl | rfl | rfl | rfl | rfl |
      rfl <;> rfl
  refine ⟨List.cons_ne_nil _ _, ?_, by rw [hparse]; rfl, ?_⟩
  · simp only [noSpace_cons, hspace, hrest, Bool.not_false, Bool.and_true]; rfl
  rw [hparse, Recovers, if_neg (by simp [hnotDash]), if_pos ⟨letter, hletter, rfl⟩]
  exact ⟨rfl, String.ext (by simp [OptionInfo.found])⟩

/-- A response file: `@` and the rest of the token. -/
theorem facts_of_responseFileMatch (h : responseFileMatch chars = some groups) :
    chars ≠ [] ∧ noSpace chars ∧ (parseArgument ⟨chars⟩).success ∧
      Recovers ⟨chars⟩ (parseArgument ⟨chars⟩).option (parseArgument ⟨chars⟩).argument := by
  obtain ⟨rest, rfl, hne, hrest, rfl⟩ := responseFileMatch_eq_some h
  have hparse : parseArgument ⟨'@' :: rest⟩ = .found "@" ⟨rest⟩ := by
    simp [parseArgument, argumentParser, longOptionMatch, shortOptionMatch, dashMatch, h,
      String.length]
  obtain ⟨c, rest, rfl⟩ := List.exists_cons_of_ne_nil hne
  refine ⟨List.cons_ne_nil _ _, ?_, by rw [hparse]; rfl, ?_⟩
  · simp only [noSpace_cons] at hrest ⊢; simp only [hrest, Bool.and_true]; rfl
  rw [hparse, Recovers, if_neg (by simp), if_neg (by simp), if_pos (by simp [String.length])]
  exact ⟨rfl, rfl⟩

/-- Any other token: the whole token is the option. -/
theorem facts_of_pathMatch (hlong : longOptionMatch chars = none)
    (hshort : shortOptionMatch chars = none) (hresponse : responseFileMatch chars = none)
    (hne : chars ≠ []) (hspace : noSpace chars) (hparse : parseArgument ⟨chars⟩ = .found ⟨chars⟩ "") :
    chars ≠ [] ∧ noSpace chars ∧ (parseArgument ⟨chars⟩).success ∧
      Recovers ⟨chars⟩ (parseArgument ⟨chars⟩).option (parseArgument ⟨chars⟩).argument := by
  refine ⟨hne, hspace, by rw [hparse]; rfl, ?_⟩
  rw [hparse, Recovers, if_neg, if_neg, if_neg]
  · exact ⟨rfl, rfl⟩
  · rintro ⟨hat, hlength⟩
    obtain ⟨c, rest, rfl⟩ := List.exists_cons_of_ne_nil hne
    obtain ⟨d, rest, rfl⟩ := List.exists_cons_of_ne_nil (fun hnil : rest = [] => by
      simp [hnil, String.length] at hlength)
    obtain rfl : c = '@' := by simpa using hat
    exact responseFileMatch_ne_none (noSpace_of_suffix (List.suffix_cons _ _) hspace) hresponse
  · rintro ⟨letter, hletter, htake⟩
    obtain ⟨rest, rfl⟩ := exists_of_take_two htake
    exact shortOptionMatch_ne_none hletter
      (noSpace_of_suffix ((List.suffix_cons _ _).trans (List.suffix_cons _ _)) hspace) hshort
  · rintro ⟨htake, hmem⟩
    obtain ⟨rest, rfl⟩ := exists_of_take_two htake
    exact longOptionMatch_ne_none
      (noSpace_of_suffix ((List.suffix_cons _ _).trans (List.suffix_cons _ _)) hspace)
      (by simpa using hmem) hlong

/-- Every match of `argument_parser` is a non-empty token free of white space, which the parse
accepts and from which the token is rebuilt. -/
theorem facts_of_argumentParser (h : argumentParser ⟨chars⟩ = some groups) :
    chars ≠ [] ∧ noSpace chars ∧ (parseArgument ⟨chars⟩).success ∧
      Recovers ⟨chars⟩ (parseArgument ⟨chars⟩).option (parseArgument ⟨chars⟩).argument := by
  cases hlong : longOptionMatch chars with
  | some _ => exact facts_of_longOptionMatch hlong
  | none =>
  cases hshort : shortOptionMatch chars with
  | some _ => exact facts_of_shortOptionMatch hlong hshort
  | none =>
  cases hdash : dashMatch chars with
  | some _ =>
    obtain ⟨rfl, -⟩ := dashMatch_eq_some hdash
    decide
  | none =>
  cases hresponse : responseFileMatch chars with
  | some _ => exact facts_of_responseFileMatch hresponse
  | none =>
  cases hpath : pathMatch chars with
  | some _ =>
    obtain ⟨hne, hspace, -⟩ := pathMatch_eq_some hpath
    exact facts_of_pathMatch hlong hshort hresponse hne hspace
      (parseArgument_of_pathMatch hlong hshort hdash hresponse hne hspace)
  | none => simp [argumentParser, hlong, hshort, hdash, hresponse, hpath] at h

/-- A successful parse comes from a match of `argument_parser`. -/
theorem exists_argumentParser_of_success {token : String} (h : (parseArgument token).success) :
    ∃ groups, argumentParser token = some groups :=
  Option.ne_none_iff_exists'.mp fun hnone => by simp [parseArgument, hnone] at h

/-- `parse_argument` accepts exactly the non-empty tokens free of white space, never gives up
after a match, and loses nothing of the token. -/
theorem parseArgument_accepts_grammar (token : String) :
    ((parseArgument token).success ↔
        token ≠ "" ∧ ∀ c ∈ token.data, c ∉ [' ', '\t', '\n', '\x0B', '\x0C', '\r']) ∧
      ((argumentParser token).isSome → (parseArgument token).success) ∧
      ((parseArgument token).success →
        Recovers token (parseArgument token).option (parseArgument token).argument) := by
  obtain ⟨chars⟩ := token
  have hne : (⟨chars⟩ : String) ≠ "" ↔ chars ≠ [] := not_congr String.ext_iff
  refine ⟨⟨fun hsuccess => ?_, fun ⟨hchars, hspace⟩ => ?_⟩, fun hsome => ?_, fun hsuccess => ?_⟩
  · obtain ⟨_, hgroups⟩ := exists_argumentParser_of_success hsuccess
    exact ⟨hne.mpr (facts_of_argumentParser hgroups).1,
      noSpace_iff.mp (facts_of_argumentParser hgroups).2.1⟩
  · replace hspace := noSpace_iff.mpr hspace
    have hsome : argumentParser ⟨chars⟩ ≠ none := fun hnone => by
      simp only [argumentParser, Option.orElse_eq_none] at hnone
      simp [pathMatch, hne.mp hchars, hspace] at hnone
    obtain ⟨_, hgroups⟩ := Option.ne_none_iff_exists'.mp hsome
    exact (facts_of_argumentParser hgroups).2.2.1
  · obtain ⟨_, hgroups⟩ := Option.isSome_iff_exists.mp hsome
    exact (facts_of_argumentParser hgroups).2.2.1
  · obtain ⟨_, hgroups⟩ := exists_argumentParser_of_success hsuccess
    exact (facts_of_argumentParser hgroups).2.2.2

end BuildCache.Rust

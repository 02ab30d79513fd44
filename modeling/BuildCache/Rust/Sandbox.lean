/-
# Running rustc in a sanitised environment

`run_rustc` removes ten variables (`LD_PRELOAD`, `HOSTNAME`, `SOURCE_DATE_EPOCH` and
others) from the process environment for the duration of one `sys::run`, through a
vector of `scoped_unset_env_t` guards. The guards' code is not among the wrapper sources;
they are modelled from the specification: a guard records the state of its variable,
defined with a value or not, and removes it, and its destruction restores the recorded
state, on a normal return as on an exception.

The ten names differ, so each guard records the variable as it was before `run_rustc`,
and the guards restore the environment whatever order they are destroyed in.
-/

import Mathlib.Logic.Function.Basic

namespace BuildCache.Rust

/-- The process environment: the value of every defined variable. -/
abbrev Environment := String → Option String

/-- Modelled from the spec: `scoped_unset_env_t`, the variable it removed and the state it
found it in. -/
structure ScopedUnsetEnv where
  name : String
  oldValue : Option String

namespace ScopedUnsetEnv

/-- Modelled from the spec: the constructor records the variable's state and unsets it. -/
def create (environment : Environment) (name : String) : ScopedUnsetEnv × Environment :=
  (⟨name, environment name⟩, Function.update environment name none)

/-- Modelled from the spec: the destructor restores the recorded state. -/
def release (guard : ScopedUnsetEnv) (environment : Environment) : Environment :=
  Function.update environment guard.name guard.oldValue

end ScopedUnsetEnv

/-- The `unset` list of `run_rustc`. -/
def unsetNames : List String :=
  ["LD_PRELOAD", "RUNNING_UNDER_RR", "HOSTNAME", "PWD", "HOST", "RPM_BUILD_ROOT",
    "SOURCE_DATE_EPOCH", "RPM_PACKAGE_RELEASE", "MINICOM", "RPM_PACKAGE_VERSION"]

/-- `std::vector<scoped_unset_env_t>(unset.begin(), unset.end())`: one guard per name, built
in order. -/
def createGuards : Environment → List String → List ScopedUnsetEnv × Environment
  | environment, [] => ([], environment)
  | environment, name :: names =>
    let (guard, environment) := ScopedUnsetEnv.create environment name
    let (guards, environment) := createGuards environment names
    (guard :: guards, environment)

/-- The destruction of the vector, element by element from the first, as libstdc++ does it. -/
def releaseGuards (guards : List ScopedUnsetEnv) (environment : Environment) : Environment :=
  guards.foldl (fun environment guard => guard.release environment) environment

/-- `run_rustc(args, quiet)`: the outcome of `sys::run` in the environment the guards leave,
and the environment after the guards are destroyed, when `sys::run` returns and when it
throws. -/
def runRustc {α : Type} (run : List String → Bool → Environment → Except String α)
    (args : List String) (quiet : Bool) (environment : Environment) :
    Except String α × Environment :=
  let (guards, sanitised) := createGuards environment unsetNames
  match run args quiet sanitised with
  | .ok result => (.ok result, releaseGuards guards sanitised)
  | .error message => (.error message, releaseGuards guards sanitised)

/-! ## The guards -/

/-- After the guards are built, their names are undefined and everything else is as it was. -/
theorem createGuards_snd (environment : Environment) (names : List String) :
    (createGuards environment names).2 =
      fun name => if name ∈ names then none else environment name := by
  induction names generalizing environment with
  | nil => simp [createGuards]
  | cons first names ih =>
    funext name
    simp only [createGuards, ScopedUnsetEnv.create, ih, List.mem_cons]
    by_cases hname : name = first
    · subst hname; simp
    · simp [hname, Function.update_noteq]

/-- Each guard of distinct names records its variable as it was before the first guard. -/
theorem createGuards_fst (environment : Environment) {names : List String} (h : names.Nodup) :
    (createGuards environment names).1 = names.map fun name => ⟨name, environment name⟩ := by
  induction names generalizing environment with
  | nil => rfl
  | cons first names ih =>
    obtain ⟨hfirst, hnodup⟩ := List.nodup_cons.mp h
    simp only [createGuards, ScopedUnsetEnv.create, ih _ hnodup, List.map_cons, List.cons.injEq,
      true_and]
    refine List.map_congr_left fun name hmem => ?_
    rw [Function.update_noteq (ne_of_mem_of_not_mem hmem hfirst)]

/-- Guards that recorded the variables of `original` bring them back, in whatever order they
are released; every other variable keeps its value. -/
theorem releaseGuards_apply {original : Environment} {guards : List ScopedUnsetEnv}
    (h : ∀ guard ∈ guards, guard.oldValue = original guard.name) (environment : Environment)
    (name : String) :
    releaseGuards guards environment name =
      if name ∈ guards.map ScopedUnsetEnv.name then original name else environment name := by
  induction guards generalizing environment with
  | nil => simp [releaseGuards]
  | cons guard guards ih =>
    simp only [List.forall_mem_cons] at h
    rw [releaseGuards, List.foldl_cons, ← releaseGuards, ih h.2]
    by_cases hmem : name ∈ guards.map ScopedUnsetEnv.name
    · simp [hmem]
    · by_cases hname : name = guard.name
      · subst hname; simp [hmem, ScopedUnsetEnv.release, h.1]
      · simp [hmem, hname, ScopedUnsetEnv.release, Function.update_noteq]

/-- Guards built for distinct names, released in any order, bring the environment back. -/
theorem releaseGuards_of_perm (environment : Environment) {names : List String} (h : names.Nodup)
    {order : List ScopedUnsetEnv} (horder : order.Perm (createGuards environment names).1) :
    releaseGuards order (createGuards environment names).2 = environment := by
  rw [createGuards_fst environment h] at horder
  have hrecorded : ∀ guard ∈ order, guard.oldValue = environment guard.name := fun guard hmem => by
    obtain ⟨name, -, rfl⟩ := List.mem_map.mp (horder.subset hmem)
    rfl
  have hnames : (order.map ScopedUnsetEnv.name).Perm names := by
    simpa [Function.comp_def] using horder.map ScopedUnsetEnv.name
  funext name
  rw [@releaseGuards_apply environment order hrecorded, createGuards_snd]
  by_cases hmem : name ∈ names <;> simp [hnames.mem_iff, hmem]

/-! ## `run_rustc` -/

/-- `sys::run` sees the environment without the ten names and with every other variable as it
was, and `run_rustc` leaves the environment as it found it, whether `sys::run` returns or
throws. -/
theorem runRustc_restores_environment {α : Type}
    (run : List String → Bool → Environment → Except String α) (args : List String) (quiet : Bool)
    (environment : Environment) :
    (runRustc run args quiet environment).1 =
        run args quiet (fun name =>
          if name ∈ ["LD_PRELOAD", "RUNNING_UNDER_RR", "HOSTNAME", "PWD", "HOST", "RPM_BUILD_ROOT",
              "SOURCE_DATE_EPOCH", "RPM_PACKAGE_RELEASE", "MINICOM", "RPM_PACKAGE_VERSION"] then none
          else environment name) ∧
      (runRustc run args quiet environment).2 = environment := by
  have hrestore := releaseGuards_of_perm environment (by decide : unsetNames.Nodup) (List.Perm.refl _)
  have hsanitised := createGuards_snd environment unsetNames
  unfold runRustc
  generalize createGuards environment unsetNames = built at hrestore hsanitised ⊢
  obtain ⟨guards, sanitised⟩ := built
  subst hsanitised
  dsimp only
  split <;> rename_i hrun <;> exact ⟨hrun.symm, hrestore⟩

end BuildCache.Rust

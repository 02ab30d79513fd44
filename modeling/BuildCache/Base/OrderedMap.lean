/-
# Ordered string maps

The wrappers return their relevant environment variables and their expected
build files as `std::map`s keyed by strings. A map is its entries in strictly
increasing key order; the order is part of the value, so an invalid map cannot
be built and two maps are equal exactly when they hold the same entries.
-/

import BuildCache.Base.StringList

namespace BuildCache

open StringList

/-- `std::string::operator<` is the strict order of the character lists. -/
theorem charsLt_iff {a b : String} : charsLt a b ↔ a.data < b.data := not_le

/-- Keys in strictly increasing order, as `std::map` keeps them. -/
def KeysAscending {V : Type} (entries : List (String × V)) : Prop :=
  entries.Pairwise fun first second => charsLt first.1 second.1

/-- `std::map<std::string, V>`. -/
structure OrderedMap (V : Type) where
  entries : List (String × V)
  ascending : KeysAscending entries

namespace OrderedMap

variable {V : Type}

/-- The empty map. -/
def empty : OrderedMap V := ⟨[], List.Pairwise.nil⟩

/-- Insert or overwrite one entry, keeping the key order. -/
def insertEntry (key : String) (value : V) : List (String × V) → List (String × V)
  | [] => [(key, value)]
  | (k, v) :: rest =>
    if charsLt key k then (key, value) :: (k, v) :: rest
    else if key = k then (key, value) :: rest
    else (k, v) :: insertEntry key value rest

/-- Every key of an insertion is the inserted key or an old one. -/
theorem mem_insertEntry {key : String} {value : V} {entries : List (String × V)}
    {entry : String × V} (h : entry ∈ insertEntry key value entries) :
    entry.1 = key ∨ ∃ old ∈ entries, old.1 = entry.1 := by
  induction entries with
  | nil => simp_all [insertEntry]
  | cons head rest ih =>
    obtain ⟨k, v⟩ := head
    simp only [insertEntry] at h
    split_ifs at h with hlt heq
    · rcases List.mem_cons.mp h with rfl | h
      · exact .inl rfl
      · exact .inr ⟨entry, h, rfl⟩
    · rcases List.mem_cons.mp h with rfl | h
      · exact .inl rfl
      · exact .inr ⟨entry, List.mem_cons_of_mem _ h, rfl⟩
    · rcases List.mem_cons.mp h with rfl | h
      · exact .inr ⟨(k, v), List.mem_cons_self _ _, rfl⟩
      · rcases ih h with h | ⟨old, hold, hkey⟩
        · exact .inl h
        · exact .inr ⟨old, List.mem_cons_of_mem _ hold, hkey⟩

theorem insertEntry_ascending {key : String} {value : V} :
    ∀ {entries : List (String × V)}, KeysAscending entries →
      KeysAscending (insertEntry key value entries)
  | [], _ => List.pairwise_singleton _ _
  | (k, v) :: rest, h => by
    rw [KeysAscending, List.pairwise_cons] at h
    simp only [insertEntry]
    split_ifs with hlt heq
    · refine List.Pairwise.cons (fun entry hmem => ?_) (List.Pairwise.cons h.1 h.2)
      rcases List.mem_cons.mp hmem with rfl | hmem
      · exact hlt
      · exact charsLt_iff.mpr (lt_trans (charsLt_iff.mp hlt) (charsLt_iff.mp (h.1 _ hmem)))
    · subst heq
      exact List.Pairwise.cons h.1 h.2
    · have hgt : charsLt k key := charsLt_iff.mpr (lt_of_le_of_ne (not_lt.mp
        (mt charsLt_iff.mpr hlt)) fun hdata => heq (String.ext hdata).symm)
      refine List.Pairwise.cons (fun entry hmem => ?_) (insertEntry_ascending h.2)
      rcases mem_insertEntry hmem with hkey | ⟨old, hold, hkey⟩
      · exact hkey ▸ hgt
      · exact hkey ▸ h.1 old hold

/-- `map[key] = value`. -/
def assign (map : OrderedMap V) (key : String) (value : V) : OrderedMap V :=
  ⟨insertEntry key value map.entries, insertEntry_ascending map.ascending⟩

/-- `map.find(key)`, as the value found. -/
def find? (map : OrderedMap V) (key : String) : Option V :=
  (map.entries.find? fun entry => entry.1 = key).map Prod.snd

/-- `map.empty()`. -/
def isEmpty (map : OrderedMap V) : Bool := map.entries.isEmpty

@[simp]
theorem find?_empty (key : String) : (empty : OrderedMap V).find? key = none := rfl

theorem find?_insertEntry (key probe : String) (value : V) (entries : List (String × V)) :
    ((insertEntry key value entries).find? fun entry => entry.1 = probe).map Prod.snd =
      if probe = key then some value
      else ((entries.find? fun entry => entry.1 = probe).map Prod.snd) := by
  induction entries with
  | nil => by_cases h : probe = key <;> simp [insertEntry, h, eq_comm]
  | cons head rest ih =>
    obtain ⟨k, v⟩ := head
    by_cases hk : probe = k <;> simp only [insertEntry] <;> split_ifs <;>
      simp_all [List.find?_cons, eq_comm]

/-- Reading back an assignment: the assigned key has its new value, every other key keeps
its old one. -/
@[simp]
theorem find?_assign (map : OrderedMap V) (key probe : String) (value : V) :
    (map.assign key value).find? probe = if probe = key then some value else map.find? probe :=
  find?_insertEntry key probe value map.entries

/-- Assigning a value to each key of a list in turn: the keys of the list hold their values,
every other key keeps its old one. -/
theorem find?_foldl_assign (keys : List String) (value : String → V) (map : OrderedMap V)
    (probe : String) :
    (keys.foldl (fun map key => map.assign key (value key)) map).find? probe =
      if probe ∈ keys then some (value probe) else map.find? probe := by
  induction keys generalizing map with
  | nil => simp
  | cons key keys ih =>
    rw [List.foldl_cons, ih, find?_assign]
    by_cases hmem : probe ∈ keys <;> by_cases hkey : probe = key <;> simp [hmem, hkey]

end OrderedMap

end BuildCache

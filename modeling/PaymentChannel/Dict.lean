/-! Finite maps that list their entries in the order of the keys.
A map is determined by its look-ups, so two histories that leave the same entries leave equal
maps, and a search through a map meets the smallest key first.
-/

namespace PaymentChannel

/-- A finite map: entries in strictly increasing order of their keys. -/
structure Dict (κ ν : Type) [Ord κ] where
  entries : List (κ × ν)
  sorted : entries.Pairwise fun left right => compare left.1 right.1 = .lt

namespace Dict

variable {κ ν : Type} [Ord κ]

instance [DecidableEq κ] [DecidableEq ν] : DecidableEq (Dict κ ν) :=
  fun left right =>
    decidable_of_iff (left.entries = right.entries) (by cases left; cases right; simp)

-----------------------------------------------------------------------------------------
-- Operations
-----------------------------------------------------------------------------------------

/-- The map without entries. -/
def empty : Dict κ ν := ⟨[], .nil⟩

/-- The number of entries. -/
def size (dict : Dict κ ν) : Nat := dict.entries.length

/-- The value of a key, if the map has an entry for it. -/
def get? [DecidableEq κ] (dict : Dict κ ν) (key : κ) : Option ν :=
  dict.entries.lookup key

/-- Whether the map has an entry for the key. -/
def contains [DecidableEq κ] (dict : Dict κ ν) (key : κ) : Bool :=
  (dict.get? key).isSome

/-- The first entry, in the order of the keys, that passes a test. -/
def find? (dict : Dict κ ν) (test : κ → ν → Bool) : Option (κ × ν) :=
  dict.entries.find? fun entry => test entry.1 entry.2

/-- Puts an entry at its place, in front of the entries with larger keys; an entry with the
same key gives way.
-/
def place (key : κ) (value : ν) : List (κ × ν) → List (κ × ν)
  | [] => [(key, value)]
  | entry :: rest =>
      match compare key entry.1 with
      | .lt => (key, value) :: entry :: rest
      | .eq => (key, value) :: rest
      | .gt => entry :: place key value rest

/-- Every key of the list after a placement is the placed one or an old one. -/
theorem mem_place {key : κ} {value : ν} {entries : List (κ × ν)} {entry : κ × ν}
    (found : entry ∈ place key value entries)
    : entry = (key, value) ∨ entry ∈ entries := by
  induction entries with
  | nil => simpa [place] using found
  | cons head rest ih =>
      simp only [place] at found
      split at found
      · simpa using found
      · rcases List.mem_cons.1 found with same | later
        · exact .inl same
        · exact .inr (List.mem_cons_of_mem _ later)
      · rcases List.mem_cons.1 found with same | later
        · exact .inr (same ▸ List.mem_cons_self)
        · exact (ih later).imp_right (List.mem_cons_of_mem _)

/-- Placing an entry keeps the keys in increasing order, by induction on the entries. -/
theorem pairwise_place [Std.TransOrd κ] [Std.LawfulEqOrd κ] (key : κ) (value : ν)
    {entries : List (κ × ν)}
    (sorted : entries.Pairwise fun left right => compare left.1 right.1 = .lt)
    : (place key value entries).Pairwise fun left right => compare left.1 right.1 = .lt := by
  induction sorted with
  | nil => simp [place]
  | @cons head rest below later ih =>
      simp only [place]
      split
      next less =>
        refine .cons ?_ (.cons below later)
        intro entry found
        rcases List.mem_cons.1 found with rfl | found
        · exact less
        · exact Std.TransCmp.lt_trans less (below entry found)
      next same =>
        have same : key = head.1 := Std.LawfulEqOrd.eq_of_compare same
        exact .cons (fun entry found => same ▸ below entry found) later
      next more =>
        refine .cons ?_ ih
        intro entry found
        rcases mem_place found with rfl | found
        · exact Std.OrientedCmp.gt_iff_lt.1 more
        · exact below entry found

/-- The map with the value for the key, in place of an earlier value if there was one. -/
def insert [Std.TransOrd κ] [Std.LawfulEqOrd κ] (dict : Dict κ ν) (key : κ) (value : ν)
    : Dict κ ν :=
  ⟨place key value dict.entries, pairwise_place key value dict.sorted⟩

/-- The map without an entry for the key. -/
def erase [DecidableEq κ] (dict : Dict κ ν) (key : κ) : Dict κ ν :=
  ⟨dict.entries.filter (·.1 ≠ key), dict.sorted.filter _⟩

/-- The map with the values of one key changed by a function. -/
def modify [DecidableEq κ] [Std.TransOrd κ] [Std.LawfulEqOrd κ] (dict : Dict κ ν) (key : κ)
    (change : ν → ν) : Dict κ ν :=
  match dict.get? key with
  | some value => dict.insert key (change value)
  | none => dict

-----------------------------------------------------------------------------------------
-- Look-ups
-----------------------------------------------------------------------------------------

variable [DecidableEq κ]

@[simp] theorem get?_empty (key : κ) : (empty : Dict κ ν).get? key = none := rfl

/-- A placed entry is found under its key, and every other key finds what it found before.
Witness: induction on the entries; a placement stops at the first key that is not smaller.
-/
theorem lookup_place [Std.LawfulEqOrd κ] (key other : κ) (value : ν) (entries : List (κ × ν))
    : (place key value entries).lookup other
      = if other = key then some value else entries.lookup other := by
  induction entries with
  | nil =>
      by_cases same : other = key
      · simp [place, same]
      · simp [place, List.lookup_cons, same, beq_false_of_ne same]
  | cons head rest ih =>
      obtain ⟨first, stored⟩ := head
      simp only [place]
      split
      next less =>
        by_cases same : other = key
        · simp [same]
        · simp [List.lookup_cons, same, beq_false_of_ne same]
      next equal =>
        have equal : key = first := Std.LawfulEqOrd.eq_of_compare equal
        subst equal
        by_cases same : other = key
        · simp [same]
        · simp [List.lookup_cons, same, beq_false_of_ne same]
      next more =>
        have apart : key ≠ first := by
          rintro rfl
          simp [Std.ReflOrd.compare_self] at more
        by_cases same : other = first
        · subst same
          simp [Ne.symm apart]
        · simp [List.lookup_cons, ih, beq_false_of_ne same]

theorem get?_insert [Std.TransOrd κ] [Std.LawfulEqOrd κ] (dict : Dict κ ν) (key other : κ)
    (value : ν)
    : (dict.insert key value).get? other = if other = key then some value else dict.get? other :=
  lookup_place key other value dict.entries

theorem get?_erase (dict : Dict κ ν) (key other : κ)
    : (dict.erase key).get? other = if other = key then none else dict.get? other := by
  obtain ⟨entries, sorted⟩ := dict
  simp only [get?, erase]
  clear sorted
  induction entries with
  | nil => simp
  | cons head rest ih =>
      obtain ⟨first, stored⟩ := head
      by_cases erased : first = key
      · subst erased
        by_cases same : other = first
        · simp [same] at ih ⊢
          exact ih
        · simpa [List.lookup_cons, same, beq_false_of_ne same] using ih
      · by_cases same : other = first
        · subst same
          simp [erased]
        · simpa [List.lookup_cons, erased, beq_false_of_ne same] using ih

end Dict

end PaymentChannel

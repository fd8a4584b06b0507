import PaymentChannel.Dict

/-! Laws of finite maps that runs rest on: look-ups after changes and first matches. -/

namespace PaymentChannel

namespace Dict

variable {κ ν : Type} [Ord κ] [DecidableEq κ]

section Changes

variable [Std.TransOrd κ] [Std.LawfulEqOrd κ]

@[simp] theorem get?_insert_self (dict : Dict κ ν) (key : κ) (value : ν)
    : (dict.insert key value).get? key = some value := by
  simp [get?_insert]

theorem get?_insert_of_ne {dict : Dict κ ν} {key other : κ} {value : ν} (apart : other ≠ key)
    : (dict.insert key value).get? other = dict.get? other := by
  simp [get?_insert, apart]

end Changes

@[simp] theorem get?_erase_self (dict : Dict κ ν) (key : κ) : (dict.erase key).get? key = none := by
  simp [get?_erase]

theorem get?_erase_of_ne {dict : Dict κ ν} {key other : κ} (apart : other ≠ key)
    : (dict.erase key).get? other = dict.get? other := by
  simp [get?_erase, apart]

/-- Keys are different if their values differ in some part. -/
theorem ne_of_get? {μ : Type} (part : ν → μ) {dict : Dict κ ν} {key other : κ} {value another : ν}
    (found : dict.get? key = some value) (there : dict.get? other = some another)
    (unlike : part another ≠ part value)
    : other ≠ key := by
  rintro rfl
  exact unlike (congrArg part (Option.some.inj (there.symm.trans found)))

/-- A key that is found is not one that is missing. -/
theorem ne_of_get?_eq_none {dict : Dict κ ν} {key other : κ} {value : ν}
    (missing : dict.get? key = none) (found : dict.get? other = some value)
    : other ≠ key := by
  rintro rfl
  exact nomatch missing.symm.trans found

theorem contains_iff {dict : Dict κ ν} {key : κ}
    : dict.contains key = true ↔ ∃ value, dict.get? key = some value := by
  simp [contains, Option.isSome_iff_exists]

@[simp] theorem contains_eq_false_iff {dict : Dict κ ν} {key : κ}
    : dict.contains key = false ↔ dict.get? key = none := by
  simp [contains]

/-- Every entry is found under its key, by induction on the entries: a smaller key never hides it.
-/
theorem get?_of_mem [Std.LawfulEqOrd κ] {dict : Dict κ ν} {key : κ} {value : ν}
    (member : (key, value) ∈ dict.entries)
    : dict.get? key = some value := by
  obtain ⟨entries, sorted⟩ := dict
  simp only [get?] at member ⊢
  induction sorted with
  | nil => simp at member
  | @cons head rest below later ih =>
      rcases List.mem_cons.1 member with rfl | member
      · simp
      · have apart : key ≠ head.1 := by
          rintro rfl
          have less := below _ member
          simp [Std.ReflOrd.compare_self] at less
        have rest := ih member
        obtain ⟨first, stored⟩ := head
        simp only at apart
        simp [List.lookup_cons, beq_false_of_ne apart, rest]

/-- What is looked up is an entry. -/
theorem mem_of_get? {dict : Dict κ ν} {key : κ} {value : ν} (found : dict.get? key = some value)
    : (key, value) ∈ dict.entries := by
  obtain ⟨before, after, split, -⟩ := List.lookup_eq_some_iff.1 found
  rw [split]
  exact List.mem_append_right _ List.mem_cons_self

/-- A search finds something if some entry passes its test. -/
theorem exists_find? {dict : Dict κ ν} {key : κ} {value : ν} (found : dict.get? key = some value)
    (test : κ → ν → Bool) (passes : test key value = true)
    : ∃ other known, dict.find? test = some (other, known) := by
  have some : (dict.find? test).isSome = true :=
    List.find?_isSome.2 ⟨(key, value), mem_of_get? found, passes⟩
  obtain ⟨⟨other, known⟩, first⟩ := Option.isSome_iff_exists.1 some
  exact ⟨other, known, first⟩

/-- What a search finds is an entry that passes its test. -/
theorem find?_eq_some [Std.LawfulEqOrd κ] {dict : Dict κ ν} {test : κ → ν → Bool} {key : κ}
    {value : ν} (found : dict.find? test = some (key, value))
    : dict.get? key = some value ∧ test key value = true := by
  have passes := List.find?_some found
  exact ⟨get?_of_mem (List.mem_of_find?_eq_some found), passes⟩

/-- A search meets the smallest key first: no entry that passes its test has a smaller one. -/
theorem le_of_find? [Std.LawfulEqOrd κ] {dict : Dict κ ν} {test : κ → ν → Bool} {key other : κ}
    {value known : ν} (found : dict.find? test = some (key, value))
    (there : dict.get? other = some known) (passes : test other known = true)
    : compare key other ≠ .gt := by
  obtain ⟨-, before, after, split, skipped⟩ := List.find?_eq_some_iff_append.1 found
  have sorted := dict.sorted
  have member := mem_of_get? there
  rw [split] at sorted member
  rcases List.mem_append.1 member with earlier | here
  · have fails := skipped _ earlier
    simp [passes] at fails
  · rcases List.mem_cons.1 here with same | later
    · rw [(Prod.mk.inj same).1, Std.ReflOrd.compare_self]
      nofun
    · have below := (List.pairwise_cons.1 (List.pairwise_append.1 sorted).2.1).1 _ later
      rw [below]
      nofun

section Equality

variable [Std.LawfulEqOrd κ]

theorem mem_entries_iff {dict : Dict κ ν} {key : κ} {value : ν}
    : (key, value) ∈ dict.entries ↔ dict.get? key = some value :=
  ⟨get?_of_mem, mem_of_get?⟩

omit [DecidableEq κ] in
theorem nodup_entries (dict : Dict κ ν) : dict.entries.Nodup := by
  refine dict.sorted.imp fun less same => ?_
  rw [same, Std.ReflOrd.compare_self] at less
  cases less

/-- A map that finds the keys of another one by a label of their values has as many entries.
Witness: both list the same pairs of labels and keys, and neither lists a pair twice.
-/
theorem size_eq_of_labels {ι : Type} [Ord ι] [DecidableEq ι] [Std.LawfulEqOrd ι] {dict : Dict κ ν}
    {index : Dict ι κ} {label : ν → ι}
    (inverse : ∀ name key, index.get? name = some key
      ↔ ∃ value, dict.get? key = some value ∧ label value = name)
    : index.size = dict.size := by
  have apart : (dict.entries.map fun entry => (label entry.2, entry.1)).Nodup := by
    refine List.pairwise_map.2 (dict.sorted.imp fun less same => ?_)
    rw [(Prod.mk.inj same).2, Std.ReflOrd.compare_self] at less
    cases less
  have members : ∀ pair, pair ∈ index.entries
      ↔ pair ∈ dict.entries.map fun entry => (label entry.2, entry.1) := by
    intro (name, key)
    rw [mem_entries_iff, inverse, List.mem_map]
    constructor
    · rintro ⟨value, found, rfl⟩
      exact ⟨(key, value), mem_entries_iff.2 found, rfl⟩
    · rintro ⟨⟨_, value⟩, member, same⟩
      obtain ⟨named, rfl⟩ := Prod.mk.inj same
      exact ⟨value, mem_entries_iff.1 member, named⟩
  have listed := ((List.perm_ext_iff_of_nodup index.nodup_entries apart).2 members).length_eq
  rwa [List.length_map] at listed

variable [Std.TransOrd κ]

/-- A map is determined by its look-ups. -/
theorem ext_get? {left right : Dict κ ν} (same : ∀ key, left.get? key = right.get? key)
    : left = right := by
  have members : ∀ entry, entry ∈ left.entries ↔ entry ∈ right.entries := by
    intro (key, value)
    rw [mem_entries_iff, mem_entries_iff, same]
  have entries : left.entries = right.entries := by
    refine List.Perm.eq_of_pairwise ?_ left.sorted right.sorted
      ((List.perm_ext_iff_of_nodup left.nodup_entries right.nodup_entries).2 members)
    intro first second _ _ less more
    have self := Std.TransCmp.lt_trans less more
    rw [Std.ReflOrd.compare_self] at self
    cases self
  cases left
  cases right
  cases entries
  rfl

/-- Of two values for a key the later one counts. -/
@[simp] theorem insert_insert (dict : Dict κ ν) (key : κ) (first second : ν)
    : (dict.insert key first).insert key second = dict.insert key second := by
  refine ext_get? fun other => ?_
  simp only [get?_insert]
  split <;> rfl

/-- Taking away what is not there changes nothing. -/
theorem erase_of_get?_eq_none {dict : Dict κ ν} {key : κ} (missing : dict.get? key = none)
    : dict.erase key = dict := by
  refine ext_get? fun other => ?_
  rw [get?_erase]
  split
  case isTrue same => rw [same, missing]
  case isFalse => rfl

/-- A new entry that is taken away again leaves no trace. -/
theorem erase_insert {dict : Dict κ ν} {key : κ} (absent : dict.get? key = none) (value : ν)
    : (dict.insert key value).erase key = dict := by
  refine ext_get? fun other => ?_
  simp only [get?_erase, get?_insert]
  split
  case isTrue same => rw [same, absent]
  case isFalse => rfl

end Equality

end Dict

end PaymentChannel

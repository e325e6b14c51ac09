import Mathlib.Data.List.Nodup
import Mathlib.Data.Option.Basic
import Mathlib.Data.List.Perm.Basic

/-! # Lists of keyed entries

Entries found by a key that no two of them share, and lists that are looked up as a
whole.
-/

namespace Kurobara.Foundation

universe u v

variable {Entry : Type u} {Key : Type v} [BEq Key] [LawfulBEq Key] {key : Entry → Key}
  {entries : List Entry}

/-- Under distinct keys an entry is found by its key. -/
theorem find?_key_eq_some_iff (distinct : (entries.map key).Nodup) {searched : Key}
    {entry : Entry} :
    entries.find? (key · == searched) = some entry ↔ entry ∈ entries ∧ key entry = searched := by
  constructor
  · intro found
    exact ⟨List.mem_of_find?_eq_some found, by simpa using List.find?_some found⟩
  · rintro ⟨member, rfl⟩
    cases found : entries.find? (key · == key entry) with
    | none => exact absurd (List.find?_eq_none.mp found entry member) (by simp)
    | some other =>
        have same : key other = key entry := by simpa using List.find?_some found
        rw [List.inj_on_of_nodup_map distinct (List.mem_of_find?_eq_some found) member same]

theorem find?_key_eq_none_iff {searched : Key} :
    entries.find? (key · == searched) = none ↔ searched ∉ entries.map key := by
  simp only [List.find?_eq_none, beq_iff_eq, List.mem_map, not_exists, not_and]

omit [BEq Key] [LawfulBEq Key] in
/-- Under distinct keys an entry splits its list into entries with other keys. -/
theorem exists_split_of_mem (distinct : (entries.map key).Nodup) {entry : Entry}
    (member : entry ∈ entries) :
    ∃ earlier later, entries = earlier ++ entry :: later ∧
      ∀ other ∈ earlier ++ later, key other ≠ key entry := by
  obtain ⟨earlier, later, rfl⟩ := List.append_of_mem member
  refine ⟨earlier, later, rfl, ?_⟩
  rw [List.map_append, List.map_cons, List.nodup_middle, List.nodup_cons, ← List.map_append]
    at distinct
  intro other otherMember same
  exact distinct.1 (same ▸ List.mem_map_of_mem otherMember)

omit [BEq Key] [LawfulBEq Key] in
/-- Under distinct keys of all owned entries, an entry has one owner. -/
theorem owner_unique {Owner : Type u} {entriesOf : Owner → List Entry} {owners : List Owner}
    (distinct : ((owners.flatMap entriesOf).map key).Nodup) {owner other : Owner}
    {left right : Entry} (leftOwner : owner ∈ owners) (rightOwner : other ∈ owners)
    (leftOwned : left ∈ entriesOf owner) (rightOwned : right ∈ entriesOf other)
    (same : key left = key right) : owner = other ∧ left = right := by
  induction owners with
  | nil => cases leftOwner
  | cons first owners ih =>
      rw [List.flatMap_cons, List.map_append, List.nodup_append] at distinct
      obtain ⟨here, later, apart⟩ := distinct
      have across : ∀ entry ∈ entriesOf first, ∀ owner ∈ owners, ∀ owned ∈ entriesOf owner,
          key entry ≠ key owned := by
        intro entry inside owner member owned ownedMember
        exact apart _ (List.mem_map_of_mem inside) _
          (List.mem_map_of_mem (List.mem_flatMap.mpr ⟨owner, member, ownedMember⟩))
      rcases List.mem_cons.mp leftOwner with rfl | leftLater
      · rcases List.mem_cons.mp rightOwner with rfl | rightLater
        · exact ⟨rfl, List.inj_on_of_nodup_map here leftOwned rightOwned same⟩
        · exact absurd same (across left leftOwned other rightLater right rightOwned)
      · rcases List.mem_cons.mp rightOwner with rfl | rightLater
        · exact absurd same.symm (across right rightOwned owner leftLater left leftOwned)
        · exact ih later leftLater rightLater

/-- A list is looked up as a whole when each of its keys is. -/
theorem mapM_eq_some_iff {Value : Type v} {Index : Type v} {lookup : Index → Option Value}
    {indices : List Index} {values : List Value} :
    indices.mapM lookup = some values ↔ indices.map lookup = values.map some := by
  induction indices generalizing values with
  | nil => cases values <;> simp
  | cons index indices ih =>
      cases found : lookup index with
      | none => cases values <;> simp [found]
      | some value =>
          cases looked : indices.mapM lookup with
          | none =>
              have absent : ∀ others : List Value, indices.map lookup ≠ others.map some :=
                fun others same => Option.some_ne_none _ ((ih.mpr same).symm.trans looked)
              cases values with
              | nil => simp [found, looked]
              | cons first others => simp [found, looked, absent others]
          | some others =>
              have same := ih.mp looked
              cases values with
              | nil => simp [found, looked]
              | cons first rest =>
                  have injective := List.map_injective_iff.mpr (Option.some_injective Value)
                  simp [found, looked, same, injective.eq_iff]

theorem mapM_exists {Value : Type v} {Index : Type v} {lookup : Index → Option Value}
    {indices : List Index} (found : ∀ index ∈ indices, ∃ value, lookup index = some value) :
    ∃ values, indices.mapM lookup = some values := by
  induction indices with
  | nil => exact ⟨[], rfl⟩
  | cons index indices ih =>
      obtain ⟨value, here⟩ := found index List.mem_cons_self
      obtain ⟨values, rest⟩ := ih fun other member => found other (List.mem_cons_of_mem _ member)
      exact ⟨value :: values, by simp [here, rest]⟩

/-- A list is converted as a whole when it is looked up and what was found is converted. -/
theorem map_bind_eq_some {Index Middle Value : Type u} {lookup : Index → Option Middle}
    {convert : Middle → Option Value} {indices : List Index} {values : List Value}
    (converted : indices.map (fun index => (lookup index).bind convert) = values.map some) :
    ∃ middles : List Middle, indices.map lookup = middles.map some ∧
    middles.map convert = values.map some := by
  induction indices generalizing values with
  | nil => exact ⟨[], rfl, by simpa using converted⟩
  | cons index indices ih =>
      cases values with
      | nil => cases converted
      | cons value values =>
          simp only [List.map_cons, List.cons.injEq] at converted
          obtain ⟨middle, found, answer⟩ := Option.bind_eq_some_iff.mp converted.1
          obtain ⟨middles, looked, answers⟩ := ih converted.2
          exact ⟨middle :: middles, by simp [found, looked], by simp [answer, answers]⟩

section Lookup

variable {Entry Key : Type u} [BEq Key] [LawfulBEq Key] {key : Entry → Key} {entries : List Entry}
  {indices : List Key} {values : List Entry}

/-- What is looked up has the keys that it was looked up by. -/
theorem lookup_keys (distinct : (entries.map key).Nodup)
    (looked : indices.map (fun searched => entries.find? (key · == searched)) = values.map some) :
    values.map key = indices := by
  induction indices generalizing values with
  | nil => simpa using looked.symm
  | cons index indices ih =>
      cases values with
      | nil => cases looked
      | cons value values =>
          simp only [List.map_cons, List.cons.injEq] at looked
          rw [List.map_cons, ih looked.2, ((find?_key_eq_some_iff distinct).mp looked.1).2]

/-- Looking up every key once answers with every entry once. -/
theorem lookup_perm (distinct : (entries.map key).Nodup)
    (looked : indices.map (fun searched => entries.find? (key · == searched)) = values.map some)
    (same : indices.Perm (entries.map key)) : values.Perm entries := by
  have found : ∀ value ∈ values, value ∈ entries := by
    intro value member
    have listed : some value ∈ values.map some := List.mem_map_of_mem member
    rw [← looked] at listed
    obtain ⟨searched, _, located⟩ := List.mem_map.mp listed
    exact List.mem_of_find?_eq_some located
  have keys := lookup_keys distinct looked
  have valuesDistinct : values.Nodup := by
    refine List.Nodup.of_map key ?_
    rw [keys]
    exact same.nodup_iff.mpr distinct
  refine (List.perm_ext_iff_of_nodup valuesDistinct distinct.of_map).mpr fun entry => ?_
  refine ⟨found entry, ?_⟩
  intro member
  have listed : key entry ∈ values.map key := by
    rw [keys]
    exact same.mem_iff.mpr (List.mem_map_of_mem member)
  obtain ⟨value, inside, equal⟩ := List.mem_map.mp listed
  exact List.inj_on_of_nodup_map distinct (found value inside) member equal ▸ inside

end Lookup

end Kurobara.Foundation

import Mathlib.Data.List.Nodup
import Mathlib.Data.List.Perm.Basic
import Conformance.Drain.Session
import Conformance.Proofs.Sorted

/-!
# The two tables of a catalog

A catalog keeps a name for each number and a number for each name. An entry takes its name and its number away
from the pairs that had them (`Inverse.holds_insert`), so the tables stay inverse to each other, and what a
catalog holds can be read off its entries: `held_iff_entered`.
-/

namespace Conformance.Catalog

/-- The name stands for the number. -/
def Holds (c : Catalog) (name : String) (id : ParameterId) : Prop := c.getByName? name = some ⟨name, id⟩

/-- A name stands for a number just if the number stands for the name. -/
def Inverse (c : Catalog) : Prop := ∀ name id, c.Holds name id ↔ c.nameOf? id = some name

variable {c : Catalog} {name other : String} {id number : ParameterId} {entries : List (String × ParameterId)}

theorem holds_iff : c.Holds name id ↔ c.byName.get? name = some id := by
  simp [Holds, getByName?]

theorem getByName?_eq_some_iff {d : ParameterDescriptor} :
    c.getByName? name = some d ↔ d.name = name ∧ c.Holds name d.id := by
  rw [holds_iff, getByName?, Option.map_eq_some_iff]
  constructor
  · rintro ⟨found, here, rfl⟩
    exact ⟨rfl, here⟩
  · rintro ⟨rfl, here⟩
    exact ⟨d.id, here, rfl⟩

theorem Holds.id_eq (holds : c.Holds name id) (holds' : c.Holds name number) : id = number :=
  Option.some.inj ((holds_iff.mp holds).symm.trans (holds_iff.mp holds'))

theorem Inverse.name_eq (inverse : c.Inverse) (holds : c.Holds name id) (holds' : c.Holds other id) : name = other :=
  Option.some.inj (((inverse name id).mp holds).symm.trans ((inverse other id).mp holds'))

/-! ### One entry -/

/-- A name other than the new one keeps its number unless that number is given to the new one. -/
theorem holds_insert :
    (c.insert name id).Holds other number ↔
      other = name ∧ number = id ∨ other ≠ name ∧ c.nameOf? id ≠ some other ∧ c.Holds other number := by
  rw [holds_iff, holds_iff, nameOf?]
  unfold insert
  rw [SortedMap.get?_insert]
  by_cases same : other = name
  · simp [same, eq_comm]
  · cases c.byNumber.get? id.value with
    | none => simp [same]
    | some previous =>
      by_cases kept : previous = name
      · simp [same, kept, Ne.symm same]
      · simp [same, kept, eq_comm]

/-- A number other than the new one keeps its name unless that name is given to the new one. -/
theorem nameOf?_insert :
    (c.insert name id).nameOf? number = some other ↔
      number = id ∧ other = name ∨ number ≠ id ∧ ¬ c.Holds name number ∧ c.nameOf? number = some other := by
  have values (i j : ParameterId) : i.value = j.value ↔ i = j := (ParameterId.mk.injEq _ _).symm ▸ .rfl
  rw [holds_iff, nameOf?, nameOf?]
  unfold insert
  simp only [SortedMap.get?_insert, values]
  by_cases same : number = id
  · simp [same, eq_comm]
  · cases c.byName.get? name with
    | none => simp [same]
    | some previous =>
      by_cases kept : previous = id
      · simp [same, kept, Ne.symm same]
      · simp [same, kept, values, eq_comm]

/-- After an entry the catalog holds the new pair, and of the earlier pairs those that share nothing with it. -/
theorem Inverse.holds_insert (inverse : c.Inverse) :
    (c.insert name id).Holds other number ↔
      other = name ∧ number = id ∨ other ≠ name ∧ number ≠ id ∧ c.Holds other number := by
  simp only [Catalog.holds_insert, ne_eq, ← inverse other id]
  refine or_congr_right (and_congr_right fun _ => ⟨?_, ?_⟩)
  · rintro ⟨apart, holds⟩
    refine ⟨?_, holds⟩
    rintro rfl
    exact apart holds
  · rintro ⟨apart, holds⟩
    exact ⟨fun moved => apart (holds.id_eq moved), holds⟩

theorem Inverse.insert (inverse : c.Inverse) : (c.insert name id).Inverse := by
  intro other number
  rw [inverse.holds_insert, nameOf?_insert, ← inverse other number]
  constructor
  · rintro (⟨sameName, sameId⟩ | ⟨apartName, apartId, holds⟩)
    · exact .inl ⟨sameId, sameName⟩
    · exact .inr ⟨apartId, fun moved => apartName (inverse.name_eq holds moved), holds⟩
  · rintro (⟨sameId, sameName⟩ | ⟨apartId, unmoved, holds⟩)
    · exact .inl ⟨sameName, sameId⟩
    · refine .inr ⟨?_, apartId, holds⟩
      rintro rfl
      exact unmoved holds

/-! ### Many entries -/

theorem Inverse.empty : empty.Inverse := by
  intro name id
  exact ⟨nofun, nofun⟩

theorem Inverse.insertMany (inverse : c.Inverse) (entries : List (String × ParameterId)) :
    (c.insertMany entries).Inverse := by
  induction entries generalizing c with
  | nil => exact inverse
  | cons entry rest ih => exact ih inverse.insert

/-- A pair is held if it was entered, or held from the start, and no later entry shares just one half of it. -/
theorem Inverse.holds_insertMany (inverse : c.Inverse) :
    (c.insertMany entries).Holds name id ↔
      (∃ before after, entries = before ++ (name, id) :: after ∧ ∀ entry ∈ after, entry.1 = name ↔ entry.2 = id) ∨
        c.Holds name id ∧ ∀ entry ∈ entries, entry.1 = name ↔ entry.2 = id := by
  induction entries generalizing c with
  | nil => simp [Catalog.insertMany]
  | cons entry rest ih =>
    rw [show c.insertMany (entry :: rest) = (c.insert entry.1 entry.2).insertMany rest from rfl,
      ih inverse.insert, inverse.holds_insert]
    obtain ⟨first, second⟩ := entry
    constructor
    · rintro (⟨before, after, rfl, later⟩ | ⟨⟨rfl, rfl⟩ | ⟨apartName, apartId, holds⟩, later⟩)
      · exact .inl ⟨(first, second) :: before, after, rfl, later⟩
      · exact .inl ⟨[], rest, rfl, later⟩
      · refine .inr ⟨holds, List.forall_mem_cons.mpr ⟨?_, later⟩⟩
        exact ⟨fun same => absurd same.symm apartName, fun same => absurd same.symm apartId⟩
    · rintro (⟨_ | ⟨head, before⟩, after, split, later⟩ | ⟨holds, later⟩)
      · cases split
        exact .inr ⟨.inl ⟨rfl, rfl⟩, later⟩
      · cases split
        exact .inl ⟨before, after, rfl, later⟩
      · obtain ⟨here, later⟩ := List.forall_mem_cons.mp later
        refine .inr ⟨?_, later⟩
        by_cases same : name = first
        · exact .inl ⟨same, (here.mp same.symm).symm⟩
        · exact .inr ⟨same, fun same' => same (here.mpr same'.symm).symm, holds⟩

/-- Tables that are inverse to each other are of one size. -/
theorem Inverse.size_eq (inverse : c.Inverse) : c.byNumber.size = c.size := by
  have turned : c.byNumber.entries.Perm (c.byName.entries.map fun entry => (entry.2.value, entry.1)) := by
    refine (List.perm_ext_iff_of_nodup c.byNumber.nodup_entries ?_).mpr ?_
    · refine c.byName.nodup_entries.map ?_
      rintro ⟨name, id⟩ ⟨other, number⟩ same
      cases id
      cases number
      cases same
      rfl
    · rintro ⟨value, name⟩
      have here : (value, name) ∈ c.byNumber.entries ↔ (name, ⟨value⟩) ∈ c.byName.entries := by
        rw [← SortedMap.get?_eq_some_iff, ← SortedMap.get?_eq_some_iff, ← holds_iff]
        exact (inverse name ⟨value⟩).symm
      rw [here, List.mem_map]
      constructor
      · exact fun member => ⟨_, member, rfl⟩
      · rintro ⟨entry, member, same⟩
        cases same
        exact member
  rw [SortedMap.size, turned.length_eq, List.length_map, size, SortedMap.size]

/-- The two parameters of a drain have different names, so they are different. -/
theorem Inverse.parameters_ne (inverse : c.Inverse) {p : QueueParameters}
    (known : QueueParameters.ofCatalog c = .ok p) : p.queuedMessage ≠ p.statusMessages := by
  unfold QueueParameters.ofCatalog at known
  split at known
  · cases known
  · cases known
  · next queued status foundQueued foundStatus =>
    cases known
    have holdsQueued := (getByName?_eq_some_iff.mp foundQueued).2
    have holdsStatus := (getByName?_eq_some_iff.mp foundStatus).2
    intro same
    rw [show queued.id = status.id from same] at holdsQueued
    have named : "QUEUED_MESSAGE" = "STATUS_MESSAGES" := inverse.name_eq holdsQueued holdsStatus
    simp at named

/--
After any entries into the empty catalog the two tables are inverse to each other and of one size, and a pair is
held just if it was entered and no later entry shares its name alone or its number alone. One more entry puts its
own pair in, takes out the pair that has its number and the pair that has its name, if there are such, and leaves
all others. The two parameters of a drain, if the catalog has them, are not the same.
-/
theorem held_iff_entered (entries : List (String × ParameterId)) :
    let c := empty.insertMany entries
    (∀ name id, (∃ d, c.getByName? name = some d ∧ d.id = id) ↔ c.nameOf? id = some name) ∧
      (∀ name d, c.getByName? name = some d → d.name = name) ∧
      c.byName.size = c.size ∧ c.byNumber.size = c.size ∧
      (∀ name id, c.getByName? name = some ⟨name, id⟩ ↔
        ∃ before after, entries = before ++ (name, id) :: after ∧
          ∀ entry ∈ after, entry.1 = name ↔ entry.2 = id) ∧
      (∀ name id other number, (c.insert name id).getByName? other = some ⟨other, number⟩ ↔
        other = name ∧ number = id ∨
          other ≠ name ∧ number ≠ id ∧ c.getByName? other = some ⟨other, number⟩) ∧
      ∀ p, QueueParameters.ofCatalog c = .ok p → p.queuedMessage ≠ p.statusMessages := by
  intro c
  have inverse : c.Inverse := Inverse.empty.insertMany entries
  refine ⟨fun name id => ?_, fun name d found => (getByName?_eq_some_iff.mp found).1, rfl, inverse.size_eq,
    fun name id => ?_, fun name id other number => inverse.holds_insert, fun p known => inverse.parameters_ne known⟩
  · rw [← inverse name id]
    constructor
    · rintro ⟨d, found, rfl⟩
      exact (getByName?_eq_some_iff.mp found).2
    · exact fun holds => ⟨_, holds, rfl⟩
  · refine Inverse.empty.holds_insertMany.trans (or_iff_left ?_)
    rintro ⟨⟨⟩, -⟩

/-- The second entry takes the number of one standard parameter and the name of another. -/
example :
    let c := standard.insertMany [("OTHER", ⟨0x8001⟩), ("OTHER", ⟨0x0020⟩)]
    c.size = standard.size ∧ c.getByName? "QUEUED_MESSAGE" = none ∧ c.nameOf? ⟨0x8001⟩ = none ∧
      c.nameOf? ⟨0x0020⟩ = some "OTHER" := by
  decide

end Conformance.Catalog

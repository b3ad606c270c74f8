import Mathlib.Data.Fintype.Card
import Mathlib.Data.Set.Card

/-!
# Tables with a fixed number of places

A table has a place for every index, and a place holds an entry or nothing.
`Keyed` says that no two entries have the same key; the lemmas follow an entry
through its life: it is put into a free place, changed, and cleared. `Represents`
reads such a table as a map from keys, in which places do not occur any more.
-/

namespace Http2Rtsp.Std.Table

variable {ι α κ : Type*} {table : ι → Option α} {key : α → κ}

/-- No two entries have the same key. -/
def Keyed (key : α → κ) (table : ι → Option α) : Prop :=
  ∀ i j first second, table i = some first → table j = some second →
    key first = key second → i = j

/-- Some entry has this key. -/
def Has (key : α → κ) (table : ι → Option α) (value : κ) : Prop :=
  ∃ i entry, table i = some entry ∧ key entry = value

theorem keyed_empty (empty : ∀ i, table i = none) : Keyed key table := by
  intro i j first second there
  rw [empty i] at there
  cases there

variable [DecidableEq ι]

/-- An entry of a changed table is the new one, or stands at another place. -/
theorem update_eq_some {i j : ι} {new : Option α} {entry : α}
    (there : Function.update table i new j = some entry) :
    (j = i ∧ new = some entry) ∨ (j ≠ i ∧ table j = some entry) := by
  by_cases same : j = i
  · subst same
    rw [Function.update_self] at there
    exact Or.inl ⟨rfl, there⟩
  · rw [Function.update_of_ne same] at there
    exact Or.inr ⟨same, there⟩

/-- A new entry keeps the keys apart exactly when its key is new. -/
theorem keyed_put_iff {i : ι} {new : α} (keyed : Keyed key table) (free : table i = none) :
    Keyed key (Function.update table i (some new)) ↔ ¬ Has key table (key new) := by
  constructor
  · rintro apart ⟨j, entry, there, same⟩
    have other : j ≠ i := by
      rintro rfl
      rw [free] at there
      cases there
    have still : Function.update table i (some new) j = some entry := by
      rw [Function.update_of_ne other, there]
    exact other (apart j i entry new still (Function.update_self ..) same)
  · intro new_ j k first second atJ atK same
    rcases update_eq_some atJ with ⟨rfl, isNew⟩ | ⟨-, old⟩
    · obtain rfl := Option.some.inj isNew
      rcases update_eq_some atK with ⟨rfl, -⟩ | ⟨-, old⟩
      · rfl
      · exact absurd ⟨k, second, old, same.symm⟩ new_
    · rcases update_eq_some atK with ⟨rfl, isNew⟩ | ⟨-, old'⟩
      · obtain rfl := Option.some.inj isNew
        exact absurd ⟨j, first, old, same⟩ new_
      · exact keyed j k first second old old' same

/-- A change which keeps the key of its entry keeps the keys apart. -/
theorem Keyed.change {i : ι} {old new : α} (keyed : Keyed key table) (there : table i = some old)
    (same : key new = key old) : Keyed key (Function.update table i (some new)) := by
  intro j k first second atJ atK equal
  rcases update_eq_some atJ with ⟨jSame, isNew⟩ | ⟨-, oldJ⟩
  · obtain rfl := Option.some.inj isNew
    rcases update_eq_some atK with ⟨kSame, -⟩ | ⟨-, oldK⟩
    · rw [jSame, kSame]
    · rw [jSame]
      exact keyed i k old second there oldK (same.symm.trans equal)
  · rcases update_eq_some atK with ⟨kSame, isNew⟩ | ⟨-, oldK⟩
    · obtain rfl := Option.some.inj isNew
      rw [kSame]
      exact keyed j i first old oldJ there (equal.trans same)
    · exact keyed j k first second oldJ oldK equal

/-- Clearing a place keeps the keys apart. -/
theorem Keyed.clear {i : ι} (keyed : Keyed key table) : Keyed key (Function.update table i none) := by
  intro j k first second atJ atK equal
  rcases update_eq_some atJ with ⟨-, none⟩ | ⟨-, oldJ⟩
  · cases none
  · rcases update_eq_some atK with ⟨-, none⟩ | ⟨-, oldK⟩
    · cases none
    · exact keyed j k first second oldJ oldK equal

/-- Clearing the place of an entry takes its key out of the table. -/
theorem Keyed.not_has_clear {i : ι} {old : α} (keyed : Keyed key table) (there : table i = some old) :
    ¬ Has key (Function.update table i none) (key old) := by
  rintro ⟨j, entry, atJ, same⟩
  rcases update_eq_some atJ with ⟨-, none⟩ | ⟨other, oldJ⟩
  · cases none
  · exact other (keyed j i entry old oldJ there same)

/-- The keys of a table with a new entry. -/
theorem has_put_iff {i : ι} {new : α} {value : κ} (free : table i = none) :
    Has key (Function.update table i (some new)) value ↔ key new = value ∨ Has key table value := by
  constructor
  · rintro ⟨j, entry, there, same⟩
    rcases update_eq_some there with ⟨-, isNew⟩ | ⟨-, old⟩
    · obtain rfl := Option.some.inj isNew
      exact Or.inl same
    · exact Or.inr ⟨j, entry, old, same⟩
  · rintro (same | ⟨j, entry, there, same⟩)
    · exact ⟨i, new, Function.update_self .., same⟩
    · have other : j ≠ i := by
        rintro rfl
        cases free.symm.trans there
      exact ⟨j, entry, by rw [Function.update_of_ne other, there], same⟩

/-- The keys stay when an entry changes and keeps its key. -/
theorem has_change_iff {i : ι} {old new : α} {value : κ} (there : table i = some old)
    (same : key new = key old) :
    Has key (Function.update table i (some new)) value ↔ Has key table value := by
  constructor
  · rintro ⟨j, entry, atJ, equal⟩
    rcases update_eq_some atJ with ⟨-, isNew⟩ | ⟨-, before⟩
    · obtain rfl := Option.some.inj isNew
      exact ⟨i, old, there, same.symm.trans equal⟩
    · exact ⟨j, entry, before, equal⟩
  · rintro ⟨j, entry, before, equal⟩
    by_cases here : j = i
    · subst here
      obtain rfl := Option.some.inj (there.symm.trans before)
      exact ⟨j, new, Function.update_self .., same.trans equal⟩
    · exact ⟨j, entry, by rw [Function.update_of_ne here, before], equal⟩

/-- The keys of a table without one of its entries. -/
theorem Keyed.has_clear_iff {i : ι} {old : α} {value : κ} (keyed : Keyed key table)
    (there : table i = some old) :
    Has key (Function.update table i none) value ↔ value ≠ key old ∧ Has key table value := by
  constructor
  · intro has
    refine ⟨?_, ?_⟩
    · rintro rfl
      exact keyed.not_has_clear there has
    · obtain ⟨j, entry, atJ, same⟩ := has
      rcases update_eq_some atJ with ⟨-, none⟩ | ⟨-, before⟩
      · cases none
      · exact ⟨j, entry, before, same⟩
  · rintro ⟨differs, j, entry, before, same⟩
    have other : j ≠ i := by
      rintro rfl
      obtain rfl := Option.some.inj (there.symm.trans before)
      exact differs same.symm
    exact ⟨j, entry, by rw [Function.update_of_ne other, before], same⟩

/-! ## Counting -/

variable [Fintype ι]

/-- The places which hold an entry. -/
def occupied (table : ι → Option α) : Finset ι := Finset.univ.filter fun i => (table i).isSome

omit [DecidableEq ι] in
@[simp] theorem mem_occupied {i : ι} : i ∈ occupied table ↔ (table i).isSome := by
  simp [occupied]

/-- A place which is put to use counts. -/
theorem occupied_put {i : ι} {new : α} (free : table i = none) :
    (occupied (Function.update table i (some new))).card = (occupied table).card + 1 := by
  have places : occupied (Function.update table i (some new)) = insert i (occupied table) := by
    ext j
    by_cases same : j = i <;> simp [same]
  rw [places, Finset.card_insert_of_notMem (by simp [free])]

/-- A place whose entry is changed counts as before. -/
theorem occupied_change {i : ι} {old new : α} (there : table i = some old) :
    occupied (Function.update table i (some new)) = occupied table := by
  ext j
  by_cases same : j = i <;> simp [same, there]

/-- A place which is cleared does not count any more. -/
theorem occupied_clear {i : ι} {old : α} (there : table i = some old) :
    (occupied (Function.update table i none)).card + 1 = (occupied table).card := by
  have places : occupied (Function.update table i none) = (occupied table).erase i := by
    ext j
    by_cases same : j = i <;> simp [same]
  rw [places, Finset.card_erase_add_one (by simp [there])]

omit [DecidableEq ι] in
/-- A table of which not all places count has a free one. -/
theorem exists_free (room : (occupied table).card < Fintype.card ι) : ∃ i, table i = none := by
  by_contra none
  have full : occupied table = Finset.univ := by
    ext i
    have there : table i ≠ Option.none := fun free => none ⟨i, free⟩
    simpa [Option.isSome_iff_ne_none] using there
  rw [full, Finset.card_univ] at room
  exact lt_irrefl _ room

/-! ## As a map -/

section Represents

variable {β : Type*} {shown : α → β} {map : κ → Option β}

/-- A table with one entry a key stands for the map from keys to what their entries show. -/
structure Represents (key : α → κ) (shown : α → β) (table : ι → Option α) (map : κ → Option β) :
    Prop where
  keyed : Keyed key table
  entries : ∀ value b, map value = some b ↔
    ∃ i entry, table i = some entry ∧ key entry = value ∧ shown entry = b

omit [DecidableEq ι] [Fintype ι] in
theorem represents_empty (empty : ∀ i, table i = none) :
    Represents key shown table fun _ => none := by
  refine ⟨keyed_empty empty, fun value b => iff_of_false (Option.some_ne_none b).symm ?_⟩
  rintro ⟨i, entry, there, -⟩
  cases (empty i).symm.trans there

omit [DecidableEq ι] [Fintype ι] in
/-- The map at the key of an entry. -/
theorem Represents.lookup (represents : Represents key shown table map) {i : ι} {entry : α}
    (there : table i = some entry) : map (key entry) = some (shown entry) :=
  (represents.entries _ _).mpr ⟨i, entry, there, rfl, rfl⟩

omit [DecidableEq ι] [Fintype ι] in
/-- The keys of the map are those of the table. -/
theorem Represents.has_iff (represents : Represents key shown table map) {value : κ} :
    Has key table value ↔ map value ≠ none := by
  rw [Option.ne_none_iff_exists']
  constructor
  · rintro ⟨i, entry, there, rfl⟩
    exact ⟨_, represents.lookup there⟩
  · rintro ⟨b, mapped⟩
    obtain ⟨i, entry, there, same, -⟩ := (represents.entries _ _).mp mapped
    exact ⟨i, entry, there, same⟩

section Update

variable [DecidableEq κ]

omit [Fintype ι] in
/-- A new entry under a new key. -/
theorem Represents.put (represents : Represents key shown table map) {i : ι} {a : α}
    (free : table i = none) (fresh : map (key a) = none) :
    Represents key shown (Function.update table i (some a))
      (Function.update map (key a) (some (shown a))) := by
  have absent : ¬ Has key table (key a) := fun has => represents.has_iff.mp has fresh
  refine ⟨(keyed_put_iff represents.keyed free).mpr absent, fun value b => ?_⟩
  by_cases here : value = key a
  · subst here
    rw [Function.update_self, Option.some.injEq]
    constructor
    · rintro rfl
      exact ⟨i, a, Function.update_self .., rfl, rfl⟩
    · rintro ⟨j, entry, there, same, rfl⟩
      rcases update_eq_some there with ⟨-, isNew⟩ | ⟨-, old⟩
      · rw [Option.some.inj isNew]
      · exact absurd ⟨j, entry, old, same⟩ absent
  · rw [Function.update_of_ne here, represents.entries]
    constructor
    · rintro ⟨j, entry, there, same, showing⟩
      have other : j ≠ i := by
        rintro rfl
        cases free.symm.trans there
      exact ⟨j, entry, by rw [Function.update_of_ne other, there], same, showing⟩
    · rintro ⟨j, entry, there, same, showing⟩
      rcases update_eq_some there with ⟨-, isNew⟩ | ⟨-, old⟩
      · exact absurd (same.symm.trans (by rw [Option.some.inj isNew])) here
      · exact ⟨j, entry, old, same, showing⟩

omit [Fintype ι] in
/-- An entry without its key in the map any more. -/
theorem Represents.clear (represents : Represents key shown table map) {i : ι} {old : α}
    (there : table i = some old) :
    Represents key shown (Function.update table i none) (Function.update map (key old) none) := by
  refine ⟨represents.keyed.clear, fun value b => ?_⟩
  by_cases here : value = key old
  · subst here
    rw [Function.update_self]
    refine iff_of_false (Option.some_ne_none b).symm ?_
    rintro ⟨j, entry, atJ, same, -⟩
    exact represents.keyed.not_has_clear there ⟨j, entry, atJ, same⟩
  · rw [Function.update_of_ne here, represents.entries]
    constructor
    · rintro ⟨j, entry, atJ, same, showing⟩
      have other : j ≠ i := by
        rintro rfl
        obtain rfl := Option.some.inj (there.symm.trans atJ)
        exact here same.symm
      exact ⟨j, entry, by rw [Function.update_of_ne other, atJ], same, showing⟩
    · rintro ⟨j, entry, atJ, same, showing⟩
      rcases update_eq_some atJ with ⟨-, none⟩ | ⟨-, before⟩
      · cases none
      · exact ⟨j, entry, before, same, showing⟩

omit [Fintype ι] in
/-- An entry which is changed under its key is cleared and put again. -/
theorem Represents.change (represents : Represents key shown table map) {i : ι} {old a : α}
    (there : table i = some old) (same : key a = key old) :
    Represents key shown (Function.update table i (some a))
      (Function.update map (key old) (some (shown a))) := by
  have cleared := represents.clear there
  have again := cleared.put (a := a) (Function.update_self i none table)
    (by rw [same, Function.update_self])
  rwa [Function.update_idem, same, Function.update_idem] at again

end Update

omit [DecidableEq ι] in
/-- The map has as many keys as the table has entries. -/
theorem Represents.ncard (represents : Represents key shown table map) :
    {value | map value ≠ none}.ncard = (occupied table).card := by
  rw [← Set.ncard_coe_finset]
  symm
  have present : ∀ i, i ∈ (occupied table : Set ι) → (table i).isSome := fun i member =>
    mem_occupied.mp (Finset.mem_coe.mp member)
  refine Set.ncard_congr (fun i member => key ((table i).get (present i member))) ?_ ?_ ?_
  · intro i member
    exact represents.has_iff.mp ⟨i, _, (Option.some_get _).symm, rfl⟩
  · intro i j atI atJ same
    exact represents.keyed i j _ _ (Option.some_get _).symm (Option.some_get _).symm same
  · intro value mapped
    obtain ⟨i, entry, there, same⟩ := represents.has_iff.mpr mapped
    refine ⟨i, Finset.mem_coe.mpr (mem_occupied.mpr (by rw [there]; rfl)), ?_⟩
    simp only [there, Option.get_some]
    exact same

end Represents

end Http2Rtsp.Std.Table

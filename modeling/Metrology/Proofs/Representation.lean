import Metrology.Proofs.Histories

/-!
# Representation of a registry

Registries that come from a document have one quantity for each dimension and an SI unit
for each quantity.  A look-up by expression is an index that is extended with each
quantity and in which the first unit with an expression stays.
-/

namespace Metrology

/-! ## Places -/

namespace UnitEntry

variable {α : Type}

def place (entry : UnitEntry α) : Nat × Nat :=
  (entry.quantityIndex, entry.unitIndex)

/-- An earlier quantity, or an earlier unit of the same quantity. -/
def Precedes (left right : UnitEntry α) : Prop :=
  left.quantityIndex < right.quantityIndex ∨
    left.quantityIndex = right.quantityIndex ∧ left.unitIndex < right.unitIndex

theorem Precedes.asymm {left right : UnitEntry α} (before : left.Precedes right) :
    ¬right.Precedes left := by
  unfold Precedes at before ⊢
  omega

end UnitEntry

namespace Registry

variable {α : Type} {registry : Registry α}

theorem pairwise_zipIdx {β : Type} (items : List β) :
    items.zipIdx.Pairwise fun left right => left.2 < right.2 := by
  have places := List.pairwise_lt_range' (s := 0) (n := items.length)
  rwa [← List.zipIdx_map_snd, List.pairwise_map] at places

/-- Entries stand in the order of their places. -/
theorem pairwise_entries (registry : Registry α) :
    registry.entries.Pairwise UnitEntry.Precedes := by
  rw [entries, List.pairwise_flatMap]
  constructor
  · rintro ⟨quantity, quantityIndex⟩ _
    rw [List.pairwise_map]
    exact (pairwise_zipIdx quantity.units).imp fun before => .inr ⟨rfl, before⟩
  · refine (pairwise_zipIdx registry.quantities).imp fun before left inLeft right inRight => ?_
    obtain ⟨_, _, rfl⟩ := List.mem_map.1 inLeft
    obtain ⟨_, _, rfl⟩ := List.mem_map.1 inRight
    exact .inl before

/-- An entry with an expression, before all others with it. -/
structure IsFirst (registry : Registry α) (expression : String) (entry : UnitEntry α) :
    Prop where
  registered : entry ∈ registry.entries
  carries : entry.expression = expression
  first : ∀ other ∈ registry.entries, other.expression = expression →
    other = entry ∨ entry.Precedes other

theorem isFirst_of_findExpression? {expression : String} {entry : UnitEntry α}
    (found : registry.findExpression? expression = some entry) :
    registry.IsFirst expression entry := by
  have registered := mem_of_findExpression? found
  obtain ⟨carries, before, after, same, others⟩ := List.find?_eq_some_iff_append.1 found
  refine ⟨registered, beq_iff_eq.1 carries, fun other member shared => ?_⟩
  have ordered := registry.pairwise_entries
  rw [same] at member ordered
  rcases List.mem_append.1 member with earlier | later
  · have differs := others other earlier
    simp only [Bool.not_eq_true', beq_eq_false_iff_ne] at differs
    exact absurd shared differs
  · rcases List.mem_cons.1 later with here | behind
    · exact .inl here
    · right
      exact List.rel_of_pairwise_cons (List.pairwise_append.1 ordered).2.1 behind

/-- What is found by an expression is the first unit with it. -/
theorem findExpression?_eq_some_iff {expression : String} {entry : UnitEntry α} :
    registry.findExpression? expression = some entry ↔ registry.IsFirst expression entry := by
  constructor
  · exact isFirst_of_findExpression?
  · intro first
    have isSome : (registry.findExpression? expression).isSome = true :=
      List.find?_isSome.2 ⟨entry, first.registered, beq_iff_eq.2 first.carries⟩
    obtain ⟨found, search⟩ := Option.isSome_iff_exists.1 isSome
    have other := isFirst_of_findExpression? search
    rcases first.first found other.registered other.carries with same | before
    · rw [search, same]
    · rcases other.first entry first.registered first.carries with same | after
      · rw [search, same]
      · exact absurd after before.asymm

/-! ## The index -/

/-- An index with the units of a quantity at its place; expressions that are in the index
keep their units. -/
def indexUnits (index : Std.HashMap String (Nat × Nat)) (quantityIndex : Nat)
    (quantity : Quantity α) : Std.HashMap String (Nat × Nat) :=
  quantity.units.zipIdx.foldl (fun index (unit, unitIndex) =>
    index.insertIfNew unit.expression (quantityIndex, unitIndex)) index

/-- The places of the units by their expressions, quantity by quantity. -/
def index (registry : Registry α) : Std.HashMap String (Nat × Nat) :=
  registry.quantities.zipIdx.foldl (fun index (quantity, quantityIndex) =>
    indexUnits index quantityIndex quantity) ∅

theorem getElem?_insertEntries (entries : List (UnitEntry α))
    (index : Std.HashMap String (Nat × Nat)) (expression : String) :
    (entries.foldl (fun index entry => index.insertIfNew entry.expression entry.place)
        index)[expression]? =
      index[expression]?.or
        ((entries.find? (·.expression == expression)).map UnitEntry.place) := by
  induction entries generalizing index with
  | nil => simp
  | cons entry rest ih =>
      rw [List.foldl_cons, ih, Std.HashMap.getElem?_insertIfNew, List.find?_cons]
      by_cases carries : entry.expression = expression
      · subst carries
        cases known : index[entry.expression]? with
        | none =>
            have fresh : entry.expression ∉ index := by
              rw [Std.HashMap.mem_iff_isSome_getElem?, known]
              exact Bool.false_ne_true
            simp [fresh]
        | some place =>
            have old : entry.expression ∈ index := by
              rw [Std.HashMap.mem_iff_isSome_getElem?, known, Option.isSome_some]
            simp [old]
      · simp [beq_eq_false_iff_ne.2 carries]

/-- The index holds the place of the unit that a look-up finds. -/
theorem getElem?_index (expression : String) :
    registry.index[expression]? =
      (registry.findExpression? expression).map UnitEntry.place := by
  have flat : registry.index = registry.entries.foldl
      (fun index entry => index.insertIfNew entry.expression entry.place) ∅ := by
    simp only [index, indexUnits, entries, List.foldl_flatMap, List.foldl_map]
    rfl
  rw [flat, getElem?_insertEntries, Std.HashMap.getElem?_empty, Option.none_or]
  rfl

/-! ## Well-formed registries -/

variable [Scalar α]

structure WellFormed (registry : Registry α) : Prop where
  distinct : (registry.quantities.map (·.dimension)).Nodup
  withSI : ∀ quantity ∈ registry.quantities, quantity.siUnit?.isSome = true
  preferred : ∀ quantity ∈ registry.quantities, quantity.preferred < quantity.units.length

theorem WellFormed.append {quantity : Quantity α} (formed : registry.WellFormed)
    (unowned : registry.ownerOf? quantity.dimension = none)
    (withSI : quantity.siUnit?.isSome = true) : (registry.append quantity).WellFormed := by
  constructor
  · simp only [Registry.append, List.map_append, List.map_cons, List.map_nil]
    refine formed.distinct.append (List.nodup_singleton _) ?_
    rw [List.disjoint_singleton, List.mem_map]
    rintro ⟨other, member, same⟩
    exact dimension_ne_of_unowned unowned member same
  · intro other member
    rcases List.mem_append.1 member with earlier | last
    · exact formed.withSI other earlier
    · rwa [List.mem_singleton.1 last]
  · exact fun other _ => other.preferred_lt

theorem WellFormed.run (formed : registry.WellFormed) (calls : List (Call α)) :
    (registry.run calls).WellFormed :=
  run_induction
    (fun _ _ admitted formed => formed.append admitted.unowned admitted.withSI) calls formed

/-! ## Loading -/

theorem siUnit?_isSome_of_base {name symbol : String} {dimension : Dimension}
    {units : List (MeasureUnit α)} {preferred : Nat} {quantity : Quantity α}
    (made : Quantity.base name symbol dimension units preferred = .ok quantity) :
    quantity.dimension = dimension ∧ quantity.siUnit?.isSome = true := by
  unfold Quantity.base Quantity.makeBase at made
  split at made
  · cases made
  · split at made
    · split at made
      · cases made
      · next sound =>
          cases made
          refine ⟨rfl, List.find?_isSome.2 ?_⟩
          unfold Quantity.unitsDefect? at sound
          split at sound
          · next any => exact List.any_eq_true.1 any
          · cases sound
    · cases made

theorem define_eq_ok {definition : QuantityDefinition α} {next : Registry α}
    (made : registry.define definition = .ok next) :
    ∃ quantity, registry.ownerOf? quantity.dimension = none ∧
      quantity.siUnit?.isSome = true ∧ next = registry.append quantity := by
  unfold define at made
  split at made
  · cases made
  · next unowned =>
      obtain ⟨quantity, based, made⟩ := exists_of_bind_eq_ok made
      obtain ⟨_, _, made⟩ := exists_of_bind_eq_ok made
      cases made
      obtain ⟨same, withSI⟩ := siUnit?_isSome_of_base based
      exact ⟨quantity, by rwa [same], withSI, rfl⟩

/-- What additions of base quantities preserve, a loaded registry has. -/
theorem load_induction {motive : Registry α → Prop} {definitions : Definitions α}
    {settings : Settings} {start : Registry α}
    (added : ∀ registry quantity, ownerOf? registry quantity.dimension = none →
      quantity.siUnit?.isSome = true → motive registry → motive (registry.append quantity))
    (initial : motive (empty settings definitions.legacy))
    (loaded : ofDefinitions definitions settings = .ok start) : motive start := by
  unfold ofDefinitions at loaded
  generalize empty settings definitions.legacy = registry at loaded initial
  generalize definitions.quantities = remaining at loaded
  induction remaining generalizing registry with
  | nil =>
      cases loaded
      exact initial
  | cons definition rest ih =>
      rw [List.foldlM_cons] at loaded
      obtain ⟨next, defined, loaded⟩ := exists_of_bind_eq_ok loaded
      obtain ⟨quantity, unowned, withSI, rfl⟩ := define_eq_ok defined
      exact ih _ (added registry quantity unowned withSI initial) loaded

theorem wellFormed_of_loaded {definitions : Definitions α} {settings : Settings}
    {start : Registry α} (loaded : ofDefinitions definitions settings = .ok start) :
    start.WellFormed :=
  load_induction (fun _ _ unowned withSI formed => formed.append unowned withSI)
    ⟨List.nodup_nil, fun _ impossible => absurd impossible List.not_mem_nil,
      fun _ impossible => absurd impossible List.not_mem_nil⟩ loaded

theorem extends_of_loaded {definitions : Definitions α} {settings : Settings}
    {start : Registry α} (loaded : ofDefinitions definitions settings = .ok start) :
    (empty settings definitions.legacy).Extends start :=
  load_induction (fun _ quantity _ _ kept => kept.trans (Extends.append _ quantity))
    (Extends.refl _) loaded

/-! ## Reached registries -/

/-- The index holds the expressions of all units, each with the first unit that has it,
and a look-up reads it. -/
structure Indexed (registry : Registry α) : Prop where
  domain : ∀ expression,
    (registry.index[expression]?).isSome = true ↔
      ∃ quantity ∈ registry.quantities, ∃ unit ∈ quantity.units, unit.expression = expression
  places : ∀ expression quantityIndex unitIndex,
    registry.index[expression]? = some (quantityIndex, unitIndex) ↔
      ∃ entry, registry.IsFirst expression entry ∧ entry.place = (quantityIndex, unitIndex)
  lookUp : ∀ expression,
    (registry.findExpression? expression).map UnitEntry.place = registry.index[expression]?

omit [Scalar α] in
theorem indexed (registry : Registry α) : registry.Indexed := by
  constructor
  · intro expression
    rw [getElem?_index, Option.isSome_map, findExpression?_isSome_iff]
  · intro expression quantityIndex unitIndex
    rw [getElem?_index, Option.map_eq_some_iff]
    exact exists_congr fun entry => and_congr_left' findExpression?_eq_some_iff
  · intro expression
    rw [getElem?_index]

/-- What has been registered or found in the earlier of two registries stays so. -/
structure Keeps (earlier later : Registry α) : Prop where
  content : ∀ (place : Nat) (quantity : Quantity α),
    earlier.quantities[place]? = some quantity → later.quantities[place]? = some quantity
  byDimension : ∀ dimension quantity, earlier.ownerOf? dimension = some quantity →
    later.ownerOf? dimension = some quantity
  byName : ∀ name quantity, earlier.findByName? name = some quantity →
    later.findByName? name = some quantity
  byExpression : ∀ expression entry, earlier.findExpression? expression = some entry →
    later.findExpression? expression = some entry

omit [Scalar α] in
theorem Extends.keeps {earlier later : Registry α} (kept : earlier.Extends later) :
    earlier.Keeps later := by
  constructor
  · intro place quantity found
    obtain ⟨newcomers, same⟩ := kept.quantities
    rw [← same, List.getElem?_append_left (List.getElem?_eq_some_iff.1 found).1]
    exact found
  · exact fun _ _ => kept.ownerOf?
  · exact fun _ _ => kept.findByName?
  · exact fun _ _ => kept.findExpression?

/-- Registering succeeds just when the dimension has an owner or the quantity can be taken
up, and returns the owner of the dimension in the registry as it is afterwards.  A failure
changes nothing. -/
structure RegistersOwner (registry : Registry α) (quantity : Quantity α) : Prop where
  succeeds : (∃ result, registry.registerDerived quantity = .ok result) ↔
    (registry.ownerOf? quantity.dimension).isSome = true ∨ registry.Admits quantity
  owner : ∀ owner grown, registry.registerDerived quantity = .ok (owner, grown) →
    registry.answering (.register quantity) = grown ∧
      grown.ownerOf? quantity.dimension = some owner
  failure : ∀ error, registry.registerDerived quantity = .error error →
    registry.answering (.register quantity) = registry

theorem registersOwner (registry : Registry α) (quantity : Quantity α) :
    registry.RegistersOwner quantity := by
  constructor
  · constructor
    · rintro ⟨⟨owner, grown⟩, made⟩
      rcases registerDerived_cases made with ⟨owned, _⟩ | ⟨_, admitted, _⟩
      · exact .inl (Option.isSome_iff_exists.2 ⟨owner, owned⟩)
      · exact .inr admitted
    · rintro (owned | admitted)
      · obtain ⟨owner, found⟩ := Option.isSome_iff_exists.1 owned
        exact ⟨(owner, registry), by rw [registerDerived, found]⟩
      · obtain ⟨unit, found⟩ := Option.isSome_iff_exists.1 admitted.withSI
        refine ⟨(quantity, registry.append quantity), ?_⟩
        simp [registerDerived, admitted.unowned, admitted.growth, found]
  · intro owner grown made
    have answers : registry.answering (.register quantity) = grown := by
      simp only [answering, registering, Attempt.start, Attempt.ofStep, made]
    refine ⟨answers, ?_⟩
    rcases registerDerived_cases made with ⟨owned, rfl⟩ | ⟨rfl, admitted, rfl⟩
    · exact owned
    · exact ownerOf?_append_of_none admitted.unowned
  · intro error made
    simp only [answering, registering, Attempt.start, Attempt.ofStep, made]

/-- Whatever calls are made on a loaded registry: it stays well-formed, its index is exact,
it keeps what it has, registering returns the owner, and without growth it never changes. -/
theorem reached_representation {definitions : Definitions α} {settings : Settings}
    {start : Registry α} (loaded : ofDefinitions definitions settings = .ok start)
    (calls later : List (Call α)) :
    (start.run calls).WellFormed ∧ (start.run calls).Indexed ∧
      (start.run calls).Keeps (start.run (calls ++ later)) ∧
      (∀ quantity, (start.run calls).RegistersOwner quantity) ∧
      (settings.growth = false → start.run calls = start) ∧
      ({ start.run calls with growth := false }).run later =
        { start.run calls with growth := false } := by
  refine ⟨(wellFormed_of_loaded loaded).run calls, indexed _, ?_, ?_, ?_, run_of_closed rfl later⟩
  · rw [run_append]
    exact (Extends.run _ later).keeps
  · intro quantity
    exact registersOwner _ quantity
  · intro closed
    exact run_of_closed ((extends_of_loaded loaded).growth.trans closed) calls

/-- A quantity is derived, and another one of its dimension arrives too late. -/
def lateCalls : List (Call ℚ) :=
  [.normalize "m/K",
    .register
      { name := "stretch"
        symbol := "s"
        dimension := ⟨Dimension.pack ⟨0, 1, 0, -1⟩⟩
        units := [.proportional "st" "stretch" 1]
        preferred := 0
        preferred_lt := Nat.one_pos
        origin := .base }]

theorem reached_representation_late :
    ∃ start : Registry ℚ, ofDefinitions offsetDocument {} = .ok start ∧
      (start.run lateCalls).size = 4 ∧
      (start.run lateCalls).WellFormed ∧ (start.run lateCalls).Indexed ∧
      (start.run lateCalls).Keeps (start.run (lateCalls ++ [.normalize "m*K"])) ∧
      (∀ quantity, (start.run lateCalls).RegistersOwner quantity) := by
  have grows : (ofDefinitions offsetDocument {}).toOption.map
      (fun start => (start.run lateCalls).size) = some 4 := by decide +kernel
  cases loaded : ofDefinitions offsetDocument {} with
  | error failure =>
      rw [loaded] at grows
      cases grows
  | ok start =>
      rw [loaded] at grows
      obtain ⟨formed, indexed, keeps, registers, _⟩ :=
        reached_representation loaded lateCalls [.normalize "m*K"]
      exact ⟨start, rfl, Option.some.inj grows, formed, indexed, keeps, registers⟩

end Registry

end Metrology

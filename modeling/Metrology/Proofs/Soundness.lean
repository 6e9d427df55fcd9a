import Metrology.Proofs.Exact
import Metrology.Proofs.Representation

/-!
# Sound units

The units of a document are checked when it is loaded.  What powers, products and
quotients pass on from the quantities that they are made of, every registry that is
reached has of all its quantities; so in exact arithmetic no slope ever vanishes.
-/

namespace Metrology

/-! ## Base quantities -/

namespace Quantity

variable {α : Type} [Scalar α]

/-- Of sound units every one can be converted, and no two have one expression. -/
structure SoundUnits (units : List (MeasureUnit α)) : Prop where
  usable : ∀ unit ∈ units, isUsable unit = true
  distinct : (units.map (·.expression)).Nodup

theorem soundUnits_of_unitDefect? {seen : List String} {units : List (MeasureUnit α)}
    (sound : unitDefect? seen units = none) :
    SoundUnits units ∧ ∀ unit ∈ units, unit.expression ∉ seen := by
  induction units generalizing seen with
  | nil => exact ⟨⟨nofun, List.nodup_nil⟩, nofun⟩
  | cons first rest ih =>
      rw [unitDefect?] at sound
      split at sound
      · cases sound
      · next usable =>
          split at sound
          · cases sound
          · next fresh =>
              obtain ⟨later, unseen⟩ := ih sound
              have apart : ∀ unit ∈ rest, unit.expression ≠ first.expression :=
                fun unit member same => unseen unit member (same ▸ List.mem_cons_self)
              refine ⟨⟨?_, ?_⟩, ?_⟩
              · exact List.forall_mem_cons.2 ⟨by simpa using usable, later.usable⟩
              · rw [List.map_cons, List.nodup_cons, List.mem_map]
                exact ⟨fun ⟨unit, member, same⟩ => apart unit member same, later.distinct⟩
              · exact List.forall_mem_cons.2 ⟨by simpa using fresh, fun unit member listed =>
                  unseen unit member (List.mem_cons_of_mem _ listed)⟩

/-- A base quantity has the units that it was made with, and they are sound. -/
theorem units_of_base {name symbol : String} {dimension : Dimension}
    {units : List (MeasureUnit α)} {preferred : Nat} {quantity : Quantity α}
    (made : base name symbol dimension units preferred = .ok quantity) :
    quantity.units = units ∧ SoundUnits units := by
  unfold base makeBase at made
  split at made
  · cases made
  · split at made
    · split at made
      · cases made
      · next defects =>
          cases made
          unfold unitsDefect? at defects
          split at defects
          · exact ⟨rfl, (soundUnits_of_unitDefect? defects).1⟩
          · cases defects
    · cases made

end Quantity

namespace Registry

section Loading

variable {α : Type} [Scalar α] {registry next : Registry α}

theorem exists_of_define {definition : QuantityDefinition α}
    (made : registry.define definition = .ok next) :
    ∃ quantity, Quantity.base definition.name definition.symbol definition.dimension
      definition.units definition.preferred = .ok quantity ∧
      next = registry.append quantity := by
  unfold define at made
  split at made
  · cases made
  · obtain ⟨quantity, based, made⟩ := exists_of_bind_eq_ok made
    obtain ⟨_, _, made⟩ := exists_of_bind_eq_ok made
    cases made
    exact ⟨quantity, based, rfl⟩

theorem exists_of_forall₂ {β γ : Type} {relation : β → γ → Prop} {lefts : List β}
    {rights : List γ} (related : List.Forall₂ relation lefts rights) {right : γ}
    (member : right ∈ rights) : ∃ left ∈ lefts, relation left right := by
  induction related with
  | nil => cases member
  | @cons first _ _ _ here _ ih =>
      rcases List.mem_cons.1 member with rfl | later
      · exact ⟨first, List.mem_cons_self, here⟩
      · obtain ⟨left, inside, there⟩ := ih later
        exact ⟨left, List.mem_cons_of_mem _ inside, there⟩

/-- A quantity is the one that a definition asks for. -/
structure Makes (definition : QuantityDefinition α) (quantity : Quantity α) : Prop where
  dimension : quantity.dimension = definition.dimension
  units : quantity.units = definition.units
  sound : Quantity.SoundUnits quantity.units

/-- The quantities of a loaded registry are those of the document, in their order. -/
theorem makes_of_loaded {definitions : Definitions α} {settings : Settings}
    {start : Registry α} (loaded : ofDefinitions definitions settings = .ok start) :
    List.Forall₂ Makes definitions.quantities start.quantities := by
  have added (remaining : List (QuantityDefinition α)) (registry : Registry α)
      (loaded : remaining.foldlM define registry = .ok start) :
      ∃ later, start.quantities = registry.quantities ++ later ∧
        List.Forall₂ Makes remaining later := by
    induction remaining generalizing registry with
    | nil =>
        cases loaded
        exact ⟨[], (List.append_nil _).symm, .nil⟩
    | cons definition rest ih =>
        rw [List.foldlM_cons] at loaded
        obtain ⟨next, defined, loaded⟩ := exists_of_bind_eq_ok loaded
        obtain ⟨quantity, based, rfl⟩ := exists_of_define defined
        obtain ⟨later, same, makes⟩ := ih _ loaded
        obtain ⟨units, sound⟩ := Quantity.units_of_base based
        refine ⟨quantity :: later, ?_, .cons ⟨?_, units, units ▸ sound⟩ makes⟩
        · rw [same, append, List.append_assoc, List.singleton_append]
        · exact (siUnit?_isSome_of_base based).1
  obtain ⟨later, same, makes⟩ := added _ _ loaded
  rwa [same]

/-- All units of a loaded registry are sound. -/
theorem soundUnits_of_loaded {definitions : Definitions α} {settings : Settings}
    {start : Registry α} (loaded : ofDefinitions definitions settings = .ok start) :
    ∀ quantity ∈ start.quantities, Quantity.SoundUnits quantity.units := by
  intro quantity member
  obtain ⟨definition, _, makes⟩ := exists_of_forall₂ (makes_of_loaded loaded) member
  exact makes.sound

end Loading

end Registry

/-! ## What derived quantities inherit -/

namespace Quantity

variable {α : Type} [Scalar α]

/-- A property that is passed on to powers, products and quotients, however they came
about. -/
structure Inherited (holds : Quantity α → Prop) : Prop where
  power : ∀ {quantity result : Quantity α} {exponent : Nat}, holds quantity →
    quantity.power exponent = .ok result → holds result
  product : ∀ {left right result : Quantity α}, holds left → holds right →
    left.product right = .ok result → holds result
  quotient : ∀ {left right result : Quantity α}, holds left → holds right →
    left.quotient right = .ok result → holds result
  origin : ∀ {quantity : Quantity α} (origin : Origin), holds quantity →
    holds { quantity with origin }

end Quantity

namespace Registry

section Inheriting

variable {α : Type} [Scalar α] {registry grown : Registry α} {holds : Quantity α → Prop}
  (inherited : Quantity.Inherited holds)
include inherited

theorem inherited_foldlM {factors : List (Factor α)} {sofar last : Option (Quantity α)}
    (known : ∀ factor ∈ factors, holds factor.entry.quantity)
    (start : ∀ quantity ∈ sofar, holds quantity)
    (made : factors.foldlM multiplyOnto sofar = .ok last) : ∀ quantity ∈ last, holds quantity := by
  induction factors generalizing sofar with
  | nil =>
      cases made
      exact start
  | cons factor rest ih =>
      rw [List.foldlM_cons] at made
      obtain ⟨next, stepped, made⟩ := exists_of_bind_eq_ok made
      refine ih (fun other member => known other (List.mem_cons_of_mem _ member)) ?_ made
      obtain ⟨powered, raised, stepped⟩ := exists_of_bind_eq_ok stepped
      have held := inherited.power (known factor List.mem_cons_self) raised
      cases sofar with
      | none =>
          cases stepped
          rintro quantity ⟨⟩
          exact held
      | some left =>
          obtain ⟨product, multiplied, stepped⟩ := exists_of_bind_eq_ok stepped
          cases stepped
          rintro quantity ⟨⟩
          exact inherited.product (start left rfl) held multiplied

/-- What is derived from factors inherits. -/
theorem inherited_synthesize {factors : List (Factor α)} {dimension : Dimension}
    {expression : String} {owner : Quantity α}
    (known : ∀ factor ∈ factors, holds factor.entry.quantity)
    (registered : ∀ quantity ∈ registry.quantities, holds quantity)
    (unowned : registry.ownerOf? dimension = none)
    (made : registry.synthesize factors dimension expression = .ok (owner, grown)) :
    holds owner := by
  obtain ⟨above, below, numerator, aboveMade, belowMade, stands, derives, _⟩ :=
    exists_of_synthesize unowned made
  have aboveHolds := inherited_foldlM inherited
    (fun factor member => known factor (List.mem_of_mem_filter member)) (by rintro _ ⟨⟩) aboveMade
  have belowHolds := inherited_foldlM inherited
    (fun factor member => known factor (List.mem_of_mem_filter member)) (by rintro _ ⟨⟩) belowMade
  have held : holds numerator := by
    rcases stands with rfl | ⟨_, owns⟩
    · exact aboveHolds numerator rfl
    · exact registered numerator (List.mem_of_find?_eq_some owns)
  cases below with
  | none =>
      cases derives
      exact inherited.origin _ held
  | some denominator => exact inherited.quotient held (belowHolds denominator rfl) derives

/-- Normalizing registers only what inherits. -/
theorem inherited_normalize (registered : ∀ quantity ∈ registry.quantities, holds quantity)
    {expression : String} {normalized : Normalized α}
    (made : registry.normalize expression = .ok (normalized, grown)) :
    ∀ quantity ∈ grown.quantities, holds quantity := by
  obtain ⟨factors, owner, _, resolved, _, owned, _⟩ := normalize_eq_ok_iff.1 made
  rcases ownerOrDerived_eq_ok owned with ⟨_, rfl⟩ | ⟨unowned, made⟩
  · exact registered
  · have members := mem_of_factors resolved
    have held := inherited_synthesize inherited
      (fun factor member => registered _ (quantity_mem_of_entry (members factor member)))
      registered unowned made
    obtain ⟨rfl, _⟩ := synthesize_eq_ok members unowned made
    exact List.forall_mem_append.2 ⟨registered, List.forall_mem_singleton.2 held⟩

theorem inherited_answering (registered : ∀ quantity ∈ registry.quantities, holds quantity)
    {call : Call α} (given : ∀ quantity, call = .register quantity → holds quantity) :
    ∀ quantity ∈ (registry.answering call).quantities, holds quantity := by
  cases call with
  | normalize expression =>
      rw [answering, normalizing]
      rcases snd_start_ofStep (fun registry => registry.normalize expression) registry with
        same | ⟨normalized, made⟩
      · rwa [same]
      · exact inherited_normalize inherited registered made
  | register quantity =>
      rw [answering, registering]
      rcases snd_start_ofStep (fun registry => registry.registerDerived quantity) registry with
        same | ⟨owner, made⟩
      · rwa [same]
      · rcases registerDerived_cases made with ⟨_, same⟩ | ⟨_, _, appended⟩
        · rwa [same]
        · rw [appended]
          intro other member
          rcases List.mem_append.1 member with earlier | last
          · exact registered other earlier
          · rw [List.mem_singleton.1 last]
            exact given quantity rfl

/-- What the first quantities and those that are registered by hand have, all
quantities of a reached registry have. -/
theorem inherited_run (registered : ∀ quantity ∈ registry.quantities, holds quantity)
    {calls : List (Call α)} (given : ∀ quantity, .register quantity ∈ calls → holds quantity) :
    ∀ quantity ∈ (registry.run calls).quantities, holds quantity := by
  induction calls generalizing registry with
  | nil => exact registered
  | cons call later ih =>
      refine ih (inherited_answering inherited registered ?_)
        fun quantity member => given quantity (List.mem_cons_of_mem _ member)
      rintro quantity rfl
      exact given quantity List.mem_cons_self

end Inheriting

end Registry

/-! ## Slopes -/

section Slopes

variable {α : Type} [Field α] [LinearOrder α] [Elementary α]

/-- No slope of a unit vanishes, so every value can be taken back. -/
def Quantity.Convertible (quantity : Quantity α) : Prop :=
  ∀ unit ∈ quantity.units, unit.slope ≠ 0

theorem Quantity.SoundUnits.convertible {quantity : Quantity α}
    (sound : SoundUnits quantity.units) : quantity.Convertible := by
  intro unit member vanishing
  have usable := sound.usable unit member
  simp [isUsable, Scalar.isZero, Scalar.same, vanishing] at usable

theorem MeasureUnit.slope_power_ne_zero {unit : MeasureUnit α} (slope : unit.slope ≠ 0)
    (exponent : Int) : (unit.power exponent).slope ≠ 0 := by
  unfold MeasureUnit.power
  split
  · exact slope
  · rw [Scalar.powerInt_eq_zpow]
    exact zpow_ne_zero exponent slope

theorem Quantity.inherited_convertible :
    Quantity.Inherited (α := α) Quantity.Convertible where
  power convertible made := by
    unfold Quantity.power at made
    split at made
    · cases made
      exact convertible
    · obtain ⟨dimension, _, made⟩ := exists_of_bind_eq_ok made
      cases made
      intro unit member
      obtain ⟨original, inside, rfl⟩ := List.mem_map.1 member
      exact MeasureUnit.slope_power_ne_zero (convertible original inside) _
  product left right made := by
    intro unit member
    obtain ⟨first, inLeft, second, inRight, rfl⟩ := exists_of_mem_product made member
    exact mul_ne_zero (left first inLeft) (right second inRight)
  quotient left right made := by
    intro unit member
    obtain ⟨first, inLeft, second, inRight, rfl⟩ := exists_of_mem_quotient made member
    exact div_ne_zero (left first inLeft) (right second inRight)
  origin _ convertible := convertible

namespace Registry

/-- All units of a reached registry can be converted both ways, as long as nothing
else is registered by hand. -/
theorem convertible_run {definitions : Definitions α} {settings : Settings}
    {start : Registry α} (loaded : ofDefinitions definitions settings = .ok start)
    {calls : List (Call α)}
    (given : ∀ quantity, .register quantity ∈ calls → quantity.Convertible) :
    ∀ quantity ∈ (start.run calls).quantities, quantity.Convertible :=
  inherited_run Quantity.inherited_convertible
    (fun quantity member => (soundUnits_of_loaded loaded quantity member).convertible) given

end Registry

end Slopes

end Metrology

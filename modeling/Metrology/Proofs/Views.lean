import Metrology.Proofs.Converting
import Metrology.Proofs.Renormalizing
import Metrology.Proofs.TrackStates

/-!
# Two views of a parameter

The value of a parameter in its own unit is the literal as it was written, or what is buffered
and shown in the unit.  What is buffered on a track that is not stale was worked out from its
source, in some registry that knew the unit; so in that registry the value is read as the amount
that is buffered.
-/

namespace Metrology

open Formula

variable {α : Type}

/-! ## Expressions that register nothing -/

namespace Registry

variable [Field α] [LinearOrder α] [Elementary α] {registry grown : Registry α}
  {expression : String} {normalized : Normalized α}

/-- What is shown in an expression that registers nothing is taken back without loss. -/
theorem Covers.toSI_ofSI
    (convertible : ∀ quantity ∈ registry.quantities, quantity.Convertible)
    (covers : registry.Covers expression)
    (made : registry.normalize expression = .ok (normalized, grown)) (magnitude : α) :
    normalized.toSI (normalized.ofSI magnitude) = magnitude := by
  cases covers _ _ made
  obtain ⟨owner, _, owned, _⟩ := owner_of_normalize made
  obtain ⟨again, plan, _, planned⟩ := exists_planned convertible
    (Option.isSome_iff_exists.2 ⟨owner, owned⟩) ⟨normalized, registry, made, rfl⟩
  cases made.symm.trans planned.normalizes
  rw [planned.toSI_eq, planned.ofSI_eq, planned.sound.toSI_ofSI]

end Registry

/-! ## Registries in which sources are read -/

namespace Source

variable [Scalar α]

/-- A registry bears out an amount of a source: the literal comes to it, or the unit that the
formula is shown in has its dimension. -/
def Reads (source : Source α) (registry : Registry α) (amount : Amount α) : Prop :=
  match source with
  | .literal value unit => ((Amount.ofUnit value unit).start registry).1 = .ok amount
  | .formula _ unit => unit.isEmpty = false → registry.Accepts unit amount.dimension

/-- The registry in which the unit of a source is read when the source is worked out; that of a
formula is read after the formula has run. -/
def site {σ : Type} (table : FunctionTable α) (resolve : Resolver α σ)
    (state : Registry α × σ) : Source α → Registry α
  | .literal _ _ => state.1
  | .formula text _ => ((evaluate table resolve text).start state).2.1

end Source

/-- For each track, the registry in which the unit of its source was last read. -/
def Sites (α : Type) : Type :=
  Track → Option (Registry α)

namespace Sites

def empty : Sites α :=
  fun _ => none

def enter (sites : Sites α) : Option (Track × Registry α) → Sites α
  | none => sites
  | some (track, registry) => Function.update sites track (some registry)

theorem enter_same (sites : Sites α) (track : Track) (registry : Registry α) :
    sites.enter (some (track, registry)) track = some registry :=
  Function.update_self ..

theorem enter_of_ne (sites : Sites α) {track other : Track} (registry : Registry α)
    (apart : other ≠ track) : sites.enter (some (track, registry)) other = sites other :=
  Function.update_of_ne apart ..

end Sites

namespace Parameter

section Turns

variable [Scalar α]

/-- The registry in which a turn reads the unit of a source. -/
def Turn.site : Turn α → Source α → Registry α
  | .change _ registry, _ => registry
  | .refresh table _ resolve state, source => source.site table resolve state

/-- The registry in which a turn reads the unit of what it works out, and for which track. -/
def site? (parameter : Parameter α) (turn : Turn α) : Option (Track × Registry α) :=
  (parameter.valuation? turn).map fun entry => (entry.1, turn.site entry.2.source)

/-- The sites after turns. -/
def sitesAfter (parameter : Parameter α) (sites : Sites α) : List (Turn α) → Sites α
  | [] => sites
  | turn :: later => (parameter.undergo turn).sitesAfter (sites.enter (parameter.site? turn)) later

/-- Parameters as they are made, with the registries in which their units were read: that of one
made with a literal, and none otherwise. -/
inductive Sited : Parameter α → Sites α → Prop where
  | literal {id : String} {value : α} {unit : String} {registry : Registry α}
      {parameter : Parameter α}
      (buffers : ((Parameter.literal id value unit).start registry).1 = .ok parameter) :
      Sited parameter (Sites.empty.enter (some (.default, registry)))
  | formula (id text unit : String) : Sited (.formula id text unit) .empty
  | loaded {line : String} {parameter : Parameter α}
      (reads : Parameter.ofLine line = .ok parameter) : Sited parameter .empty
  | named {parameter : Parameter α} {sites : Sites α} (sited : Sited parameter sites)
      (name : String) : Sited { parameter with name := some name } sites

/-- A track that is not stale holds an amount that the registry of its site bears out. -/
def BorneOut (parameter : Parameter α) (sites : Sites α) : Prop :=
  ∀ track state, parameter.track? track = some state → state.stale = false →
    ∃ amount registry, state.cached = some amount ∧ sites track = some registry ∧
      state.source.Reads registry amount

theorem Sited.begun {parameter : Parameter α} {sites : Sites α} (sited : Sited parameter sites) :
    ∃ ledger, Begun parameter ledger := by
  induction sited with
  | literal buffers => exact ⟨_, .literal buffers⟩
  | formula id text unit => exact ⟨_, .formula id text unit⟩
  | loaded reads => exact ⟨_, .loaded reads⟩
  | named _ name begun =>
      obtain ⟨ledger, begun⟩ := begun
      exact ⟨ledger, begun.named name⟩

theorem Sited.borneOut {parameter : Parameter α} {sites : Sites α} (sited : Sited parameter sites) :
    parameter.BorneOut sites := by
  induction sited with
  | @literal _ _ _ registry _ buffers =>
      obtain ⟨amount, converted, rfl⟩ := literal_eq_ok buffers
      rintro (_ | _) state held _
      · cases held
        exact ⟨amount, registry, rfl, Sites.enter_same .., converted⟩
      · cases held
  | formula id text unit =>
      rintro (_ | _) state held notStale
      · cases held
        cases notStale
      · cases held
  | loaded reads =>
      intro track state held notStale
      exact absurd (((stale_of_ofLine reads).2.2 track state held).symm.trans notStale) (by decide)
  | named _ _ borneOut => exact borneOut

/-- The ledger of what the tracks hold that are not stale. -/
def holdings (parameter : Parameter α) : Ledger α := fun track =>
  (parameter.track? track).bind fun state =>
    if state.stale then none else state.cached.map fun amount => ⟨state.source, .ok amount⟩

omit [Scalar α] in
theorem holdings_eq_some {parameter : Parameter α} {track : Track} {valuation : Valuation α}
    (held : parameter.holdings track = some valuation) :
    ∃ state amount, parameter.track? track = some state ∧ state.stale = false ∧
      state.cached = some amount ∧ valuation = ⟨state.source, .ok amount⟩ := by
  obtain ⟨state, present, kept⟩ := Option.bind_eq_some_iff.1 held
  cases stale : state.stale with
  | true =>
      rw [stale] at kept
      cases kept
  | false =>
      rw [stale] at kept
      obtain ⟨amount, cached, rfl⟩ := Option.map_eq_some_iff.1 kept
      exact ⟨state, amount, present, stale, cached, rfl⟩

theorem BorneOut.fresh {parameter : Parameter α} {sites : Sites α}
    (borneOut : parameter.BorneOut sites) :
    parameter.Fresh parameter.holdings := by
  intro track state held notStale
  obtain ⟨amount, _, cached, _⟩ := borneOut track state held notStale
  refine ⟨amount, cached, ?_⟩
  rw [holdings, held, Option.bind_some, notStale, cached]
  rfl

/-! ## What a turn reads -/

section Reading

variable {σ : Type} {table : FunctionTable α} {resolve : Resolver α σ} {state : Registry α × σ}

/-- An amount that can be shown in a unit has its dimension. -/
theorem accepts_of_checkUnit {unit : String} {amount : Amount α} (filled : unit.isEmpty = false)
    (checked : ((checkUnit unit amount : Calculation α σ Unit).start state).1 = .ok ()) :
    state.1.Accepts unit amount.dimension := by
  unfold checkUnit at checked
  rw [filled, if_neg Bool.false_ne_true] at checked
  cases made : state.1.normalize unit with
  | error failure =>
      have asked : ((Attempt.onFirst (Registry.normalizing unit) :
          Calculation α σ (Normalized α)).start state).1 = .error failure := by
        rw [Attempt.start_onFirst, Registry.start_normalizing_of_error made]
      rw [Attempt.start_bind_of_error asked] at checked
      cases checked
  | ok answer =>
      have asked : ((Attempt.onFirst (Registry.normalizing unit) :
          Calculation α σ (Normalized α)).start state).1 = .ok answer.1 := by
        rw [Attempt.start_onFirst, Registry.start_normalizing_of_ok made]
      rw [Attempt.start_bind_of_ok asked] at checked
      split at checked
      · next same => exact ⟨answer.1, answer.2, made, same⟩
      · cases checked

/-- What is recomputed is borne out by the registry in which the unit is read. -/
theorem reads_of_recompute {track : TrackState α} (unsettled : track.isSettled = false)
    {amount : Amount α}
    (made : ((recompute table resolve track).start state).1 = .ok (some amount)) :
    track.source.Reads (track.source.site table resolve state) amount := by
  cases source : track.source with
  | literal value unit =>
      obtain ⟨fresh, same, worth⟩ := worth_of_recompute unsettled made
      cases same
      rwa [source] at worth
  | formula text unit =>
      intro filled
      rw [recompute_formula table resolve source, Attempt.start_map] at made
      obtain ⟨fresh, shown, same⟩ := exists_of_map_eq_ok made
      obtain ⟨value, after, evaluated, checked, rfl⟩ := exists_of_evaluateShown shown
      cases same
      rw [Source.site, evaluated]
      exact accepts_of_checkUnit filled checked

end Reading

variable {parameter : Parameter α} {sites : Sites α} {ledger : Ledger α}

/-- What a turn has worked out for a track that it leaves not stale is borne out by the registry
in which the turn has read the unit. -/
theorem Fresh.reads_of_entered (fresh : parameter.Fresh ledger)
    (overridden : parameter.Overridden) {turn : Turn α} {track : Track} {state : TrackState α}
    {source : Source α} {amount : Amount α}
    (entered : parameter.valuation? turn = some (track, ⟨source, .ok amount⟩))
    (held : (parameter.undergo turn).track? track = some state) (notStale : state.stale = false) :
    source.Reads (turn.site source) amount := by
  cases turn with
  | change change registry =>
      cases change with
      | literal other value unit =>
          cases converted : ((Amount.ofUnit value unit).start registry).1 with
          | error failure =>
              rw [valuation?_literal_of_error converted] at entered
              cases entered
          | ok worth =>
              rw [valuation?_literal_of_ok converted] at entered
              cases entered
              exact converted
      | _ => cases entered
  | @refresh σ table pass resolve start =>
      rw [valuation?] at entered
      split at entered
      · cases entered
      · next anew =>
          rw [Bool.not_eq_true, Bool.or_eq_false_iff] at anew
          obtain ⟨rfl, valued⟩ := Prod.mk.inj (Option.some.inj entered)
          obtain ⟨rfl, worth⟩ := Valuation.mk.inj valued
          rw [undergo, refresh_of_forgotten anew.1] at held
          cases made : ((recompute table resolve parameter.activeState).start start).1 with
          | error failure =>
              -- What fails leaves a stale track, whatever the ledger says of it.
              rw [made] at held
              obtain ⟨_, _, ledgered⟩ :=
                fresh.comes overridden (.failed (.error failure) failure) _ state held notStale
              rw [Ledger.enter_same] at ledgered
              cases congrArg Valuation.outcome (Option.some.inj ledgered)
          | ok recomputed =>
              obtain ⟨again, rfl, valuedAgain⟩ := worth_of_recompute anew.2 made
              cases worth.symm.trans valuedAgain
              exact reads_of_recompute anew.2 made

/-- A turn leaves each track that is not stale with an amount that was worked out in it, or as
it was. -/
theorem BorneOut.undergo (borneOut : parameter.BorneOut sites) (overridden : parameter.Overridden)
    (turn : Turn α) :
    (parameter.undergo turn).BorneOut (sites.enter (parameter.site? turn)) := by
  have after : (parameter.undergo turn).Fresh
      (parameter.holdings.enter (parameter.valuation? turn)) := by
    rw [undergo_eq]
    cases turn with
    | change change registry => exact borneOut.fresh.take_change overridden change registry
    | refresh table pass resolve state =>
        exact borneOut.fresh.comes overridden (parameter.refresh_comes table pass resolve state)
  intro track state held notStale
  obtain ⟨amount, cached, recorded⟩ := after track state held notStale
  have earlier (kept : parameter.holdings track = some ⟨state.source, .ok amount⟩) :
      ∃ registry, sites track = some registry ∧ state.source.Reads registry amount := by
    obtain ⟨before, old, present, fresh, buffered, same⟩ := holdings_eq_some kept
    obtain ⟨_, registry, bufferedToo, sited, reads⟩ := borneOut track before present fresh
    cases buffered.symm.trans bufferedToo
    obtain ⟨source, outcome⟩ := Valuation.mk.inj same
    cases outcome
    exact ⟨registry, sited, source ▸ reads⟩
  cases entered : parameter.valuation? turn with
  | none =>
      rw [entered] at recorded
      obtain ⟨registry, sited, reads⟩ := earlier recorded
      refine ⟨amount, registry, cached, ?_, reads⟩
      rw [site?, entered]
      exact sited
  | some entry =>
      obtain ⟨worked, valuation⟩ := entry
      rw [entered] at recorded
      rw [site?, entered]
      by_cases here : track = worked
      · subst here
        rw [Ledger.enter_same] at recorded
        cases recorded
        exact ⟨amount, _, cached, Sites.enter_same ..,
          borneOut.fresh.reads_of_entered overridden entered held notStale⟩
      · rw [Ledger.enter_of_ne _ _ here] at recorded
        obtain ⟨registry, sited, reads⟩ := earlier recorded
        exact ⟨amount, registry, cached, (Sites.enter_of_ne _ _ here).trans sited, reads⟩

theorem BorneOut.undergoAll (borneOut : parameter.BorneOut sites)
    (consistent : parameter.Consistent ledger) (turns : List (Turn α)) :
    (parameter.undergoAll turns).BorneOut (parameter.sitesAfter sites turns) := by
  induction turns generalizing parameter sites ledger with
  | nil => exact borneOut
  | cons turn later ih =>
      exact ih (borneOut.undergo consistent.overridden turn) (consistent.undergo turn)

end Turns

/-! ## The two views -/

section Showing

variable [Scalar α] {parameter : Parameter α} {registry : Registry α}

end Showing

section Views

variable [Field α] [LinearOrder α] [Elementary α] {parameter : Parameter α}
  {registry : Registry α}

end Views

deriving instance DecidableEq for Quantity, Registry

end Parameter

end Metrology

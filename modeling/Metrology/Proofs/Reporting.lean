import Metrology.Proofs.Obtaining
import Metrology.Service

/-!
# What a pass reports

The failures that a pass returns are those that it leaves behind: of exactly the
parameters without an amount, each once, with the failure of its own refresh.  So the
answer of the service shows every registered parameter once, with its amount or with
its failure.
-/

namespace Metrology

open Formula

variable {α : Type}

/-! ## Failures of a store -/

namespace Parameter

/-- Whether no amount can be read. -/
def isMissing (parameter : Parameter α) : Bool :=
  (failure? parameter.amount).isSome

theorem isMissing_eq_false_iff {parameter : Parameter α} :
    parameter.isMissing = false ↔ ∃ amount, parameter.amount = .ok amount := by
  unfold isMissing
  cases parameter.amount <;> simp [failure?]

/-- The failure that a parameter reports under its id. -/
def report? (parameter : Parameter α) : Option (String × Error) :=
  parameter.lastError.map fun failure => (parameter.id, failure)

/-- Right after a refresh, a parameter shows the failure that it reports. -/
theorem Faithful.failure?_outcome {parameter : Parameter α} (faithful : parameter.Faithful)
    (traced : parameter.tracer.isSome = true) :
    failure? parameter.outcome = parameter.lastError := by
  have agree := faithful traced
  unfold outcome recorded amount
  cases last : parameter.lastError with
  | some failure => rfl
  | none =>
      rw [last] at agree
      obtain ⟨amount, cached⟩ := Option.isSome_iff_exists.1 agree.symm
      rw [cached]
      rfl

theorem Faithful.isMissing_eq {parameter : Parameter α} (faithful : parameter.Faithful)
    (traced : parameter.tracer.isSome = true) :
    parameter.isMissing = parameter.lastError.isSome := by
  have agree := faithful traced
  rw [← Option.not_isNone, agree]
  unfold isMissing amount
  cases parameter.activeState.cached <;> rfl

end Parameter

namespace Store

/-- Every parameter was refreshed under a pass and remembers it truly. -/
def RefreshedUnder (pass : PassToken) (store : Store α) : Prop :=
  ∀ parameter ∈ store.pool.parameters,
    parameter.tracer = some pass ∧ parameter.Faithful

/-- The failures that a pass returned are those of the parameters that it left without
an amount, in their order, each with what its own refresh recorded. -/
structure ReportsExactly (pass : PassToken) (failures : List (String × Error))
    (after : Store α) : Prop where
  ids : failures.map (·.1) =
    (after.pool.parameters.filter (·.isMissing)).map (·.id)
  nodup : (failures.map (·.1)).Nodup
  recorded : ∀ id failure, (id, failure) ∈ failures → ∃ parameter,
    after.find? id = some parameter ∧ parameter.tracer = some pass ∧
      parameter.lastError = some failure

section Reports

variable {pass : PassToken} {store : Store α}

theorem failuresOf_ids (distinct : store.ids.Nodup) (refreshed : store.RefreshedUnder pass) :
    store.failuresOf store.ids = store.pool.parameters.filterMap (·.report?) := by
  rw [failuresOf, ids, Pool.ids, List.flatMap_map, List.filterMap_eq_flatMap_toList]
  refine List.flatMap_congr fun parameter member => ?_
  obtain ⟨traced, faithful⟩ := refreshed parameter member
  have found : store.find? parameter.id = some parameter :=
    Pool.find?_of_mem distinct member
  rw [answers, found]
  dsimp only
  rw [faithful.failure?_outcome (by rw [traced]; rfl), Parameter.report?]

theorem map_fst_reports (refreshed : store.RefreshedUnder pass) :
    (store.pool.parameters.filterMap (·.report?)).map (·.1) =
      (store.pool.parameters.filter (·.isMissing)).map (·.id) := by
  rw [List.map_filterMap, ← List.filterMap_eq_map, List.filterMap_filter]
  refine List.filterMap_congr fun parameter member => ?_
  obtain ⟨traced, faithful⟩ := refreshed parameter member
  rw [faithful.isMissing_eq (by rw [traced]; rfl), Parameter.report?]
  cases parameter.lastError <;> rfl

theorem reportsExactly_failuresOf (distinct : store.ids.Nodup)
    (refreshed : store.RefreshedUnder pass) :
    ReportsExactly pass (store.failuresOf store.ids) store where
  ids := by rw [failuresOf_ids distinct refreshed, map_fst_reports refreshed]
  nodup := by
    rw [failuresOf_ids distinct refreshed, map_fst_reports refreshed]
    exact distinct.sublist (List.filter_sublist.map _)
  recorded id failure member := by
    rw [failuresOf_ids distinct refreshed] at member
    obtain ⟨parameter, present, reports⟩ := List.mem_filterMap.1 member
    obtain ⟨own, last, same⟩ := Option.map_eq_some_iff.1 reports
    cases same
    exact ⟨parameter, Pool.find?_of_mem distinct present, (refreshed parameter present).1, last⟩

/-- Whoever reports is missing, and nobody else. -/
theorem ReportsExactly.any_eq_isMissing {after : Store α}
    {failures : List (String × Error)} (reports : ReportsExactly pass failures after)
    (distinct : after.ids.Nodup) {parameter : Parameter α}
    (member : parameter ∈ after.pool.parameters) :
    failures.any (·.1 == parameter.id) = parameter.isMissing := by
  have listed : failures.any (·.1 == parameter.id) = true ↔
      parameter.id ∈ failures.map (·.1) := by
    simp [List.any_eq_true]
  rw [Bool.eq_iff_iff, listed, reports.ids, List.mem_map]
  constructor
  · rintro ⟨other, chosen, same⟩
    obtain ⟨present, missing⟩ := List.mem_filter.1 chosen
    rwa [← List.inj_on_of_nodup_map distinct present member same]
  · exact fun missing => ⟨parameter, List.mem_filter.2 ⟨member, missing⟩, rfl⟩

end Reports

variable [Scalar α]

/-- A pass over parameters that could be obtained reports exactly. -/
theorem reportsExactly_updateAll (store : Store α) (distinct : store.ids.Nodup)
    (obtained : store.pool.Every Parameter.Obtained) {pass : PassToken}
    (real : pass.isEmpty = false) :
    let run := updateAll pass store
    run.2.ids = store.ids ∧ run.2.RefreshedUnder pass ∧
      ReportsExactly pass run.1 run.2 := by
  obtain ⟨advances, traced, failures⟩ := updateEach_advances real store.ids store
  intro run
  have sameIds : run.2.ids = store.ids := advances.ids
  have kept : run.2.pool.Every Parameter.Obtained := updateEach_keeps_every
    (fun _ table resolve state obtained => obtained.refreshed table pass resolve state)
    store.ids obtained
  have still : run.2.ids.Nodup := by rwa [sameIds]
  have refreshed : run.2.RefreshedUnder pass := by
    intro parameter member
    have listed : parameter.id ∈ run.2.ids := List.mem_map_of_mem member
    rw [sameIds] at listed
    exact ⟨traced parameter.id listed parameter (Pool.find?_of_mem still member),
      (kept parameter member).faithful⟩
  refine ⟨sameIds, refreshed, ?_⟩
  have told : run.1 = run.2.failuresOf run.2.ids := by
    rw [sameIds]
    exact failures
  rw [told]
  exact reportsExactly_failuresOf still refreshed

end Store

/-! ## Answers of the service -/

namespace Service

variable [Scalar α]

/-- The parameters that lines describe. -/
def Describes (lines : List Json) (parameters : List (Parameter α)) : Prop :=
  lines.Forall₂ (fun line parameter => ∃ text,
    line = .string text ∧ Parameter.ofLine text = .ok parameter) parameters

theorem Describes.obtained {lines : List Json} {parameters : List (Parameter α)}
    (describes : Describes lines parameters) :
    ∀ parameter ∈ parameters, Parameter.Obtained parameter := by
  induction describes with
  | nil => exact fun _ member => absurd member List.not_mem_nil
  | cons head _ ih =>
      obtain ⟨text, _, reads⟩ := head
      intro parameter member
      rcases List.mem_cons.1 member with rfl | later
      · exact .loaded reads
      · exact ih parameter later

/-- Registering lines adds the parameters that they describe, whose ids are free. -/
theorem registerLines_eq_ok {start store : Store α} {lines : List Json}
    (registered : registerLines start lines = .ok store) (distinct : start.ids.Nodup) :
    ∃ parameters, Describes lines parameters ∧ store.ids.Nodup ∧
      store = { start with
        pool := { start.pool with parameters := start.pool.parameters ++ parameters } } := by
  induction lines generalizing start with
  | nil =>
      cases registered
      exact ⟨[], .nil, distinct, by simp⟩
  | cons line rest ih =>
      cases line with
      | string text =>
          unfold registerLines at registered
          cases added : (Parameter.ofLine text).bind start.register with
          | error failure =>
              rw [added] at registered
              cases registered
          | ok next =>
              rw [added] at registered
              obtain ⟨parameter, reads, taken⟩ := exists_of_bind_eq_ok added
              obtain ⟨others, described, free, same⟩ :=
                ih registered (Store.nodup_ids_register distinct taken)
              unfold Store.register at taken
              split at taken
              · cases taken
              · cases taken
                refine ⟨parameter :: others, .cons ⟨text, rfl, reads⟩ described, free, ?_⟩
                rw [same, List.append_assoc]
                rfl
      | _ => cases registered

theorem id_parameterJson (parameter : Parameter α) (registry : Registry α) :
    (parameterJson parameter registry).1.member? "id" = some (.string parameter.id) := rfl

theorem si_parameterJson {parameter : Parameter α} {amount : Amount α}
    (buffered : parameter.amount = .ok amount) (registry : Registry α) :
    (parameterJson parameter registry).1.member? "si" = some (.ofScalar amount.magnitude) := by
  rw [parameterJson, buffered]
  rfl

/-- Every parameter is shown once, in its order. -/
theorem mapM_parameterJson (parameters : List (Parameter α)) (registry : Registry α) :
    let shown := ((parameters.mapM parameterJson : StateM _ _) registry).1
    shown.map (Json.member? "id") = parameters.map (fun parameter => some (.string parameter.id)) ∧
      ∀ value ∈ shown, ∃ parameter ∈ parameters, ∃ reached,
        value = (parameterJson parameter reached).1 := by
  induction parameters generalizing registry with
  | nil => exact ⟨rfl, nofun⟩
  | cons parameter rest ih =>
      obtain ⟨ids, origins⟩ := ih (parameterJson parameter registry).2
      rw [List.mapM_cons]
      refine ⟨congrArg (_ :: ·) ids, fun value member => ?_⟩
      rcases List.mem_cons.1 member with rfl | later
      · exact ⟨parameter, List.mem_cons_self, registry, rfl⟩
      · obtain ⟨other, present, reached⟩ := origins value later
        exact ⟨other, List.mem_cons_of_mem _ present, reached⟩

/-- An answer with values and errors accounts for the parameters of a store: the id of
each stands in it once, either with its amount or with the failure of its refresh. -/
structure Accounts (store : Store α) (values errors : List Json) : Prop where
  once : ((values ++ errors).map (Json.member? "id")).Perm
    (store.ids.map fun id => some (.string id))
  values : ∀ value ∈ values, ∃ parameter ∈ store.pool.parameters, ∃ amount,
    value.member? "id" = some (.string parameter.id) ∧ parameter.amount = .ok amount ∧
      value.member? "si" = some (.ofScalar amount.magnitude)
  errors : ∀ entry ∈ errors, ∃ parameter ∈ store.pool.parameters, ∃ failure,
    entry.member? "id" = some (.string parameter.id) ∧
      parameter.lastError = some failure ∧
      entry.member? "error" = some (Refusal.failed failure).json

theorem accounts_of_reportsExactly {pass : PassToken} {after : Store α}
    {failures : List (String × Error)} (reports : Store.ReportsExactly pass failures after)
    (distinct : after.ids.Nodup) (registry : Registry α) :
    Accounts after
      (((after.pool.parameters.filter fun parameter =>
        !failures.any (·.1 == parameter.id)).mapM parameterJson : StateM _ _) registry).1
      (failures.map failureJson) := by
  have succeeded : (after.pool.parameters.filter fun parameter =>
      !failures.any (·.1 == parameter.id)) =
      after.pool.parameters.filter fun parameter => !parameter.isMissing :=
    List.filter_congr fun parameter member => by
      rw [reports.any_eq_isMissing distinct member]
  obtain ⟨valueIds, origins⟩ := mapM_parameterJson
    (after.pool.parameters.filter fun parameter => !parameter.isMissing) registry
  rw [succeeded]
  refine ⟨?_, fun value member => ?_, fun entry member => ?_⟩
  · have errorIds : (failures.map failureJson).map (Json.member? "id") =
        (after.pool.parameters.filter (·.isMissing)).map
          fun parameter => some (.string parameter.id) := by
      have named : (failures.map failureJson).map (Json.member? "id") =
          (failures.map (·.1)).map fun id => some (.string id) := by
        simp [failureJson, Json.member?, Function.comp_def]
      rw [named, reports.ids, List.map_map]
      rfl
    have split := List.perm_append_comm.trans
      (List.filter_append_perm (·.isMissing) after.pool.parameters)
    rw [List.map_append, valueIds, errorIds, ← List.map_append]
    simpa [Store.ids, Pool.ids, Function.comp_def] using
      split.map fun parameter => some (Json.string parameter.id)
  · obtain ⟨parameter, chosen, reached, rfl⟩ := origins value member
    obtain ⟨present, buffered⟩ := List.mem_filter.1 chosen
    obtain ⟨amount, read⟩ := Parameter.isMissing_eq_false_iff.1 (by simpa using buffered)
    exact ⟨parameter, present, amount, id_parameterJson parameter reached, read,
      si_parameterJson read reached⟩
  · obtain ⟨⟨id, failure⟩, reported, rfl⟩ := List.mem_map.1 member
    obtain ⟨parameter, found, _, last⟩ := reports.recorded id failure reported
    exact ⟨parameter, Pool.mem_of_find? found, failure,
      congrArg (fun id => some (Json.string id)) (Pool.id_of_find? found).symm, last, rfl⟩

/-- A pass under a new token is described by the store that it leaves. -/
theorem passJson_accounts {store : Store α} (distinct : store.ids.Nodup)
    (obtained : store.pool.Every Parameter.Obtained)
    (real : store.tokens.mint.1.isEmpty = false) :
    ∃ values errors,
      (passJson store).1 =
        .object [("values", .array values), ("errors", .array errors)] ∧
      store.runPass.2.ids = store.ids ∧ Accounts store.runPass.2 values errors := by
  obtain ⟨kept, _, reports⟩ := Store.reportsExactly_updateAll
    { store with tokens := store.tokens.mint.2 } distinct obtained real
  refine ⟨_, _, rfl, kept, accounts_of_reportsExactly reports ?_ _⟩
  rw [kept]
  exact distinct

omit [Scalar α] in
theorem get_bind {β : Type} (next : Registry α → Handler α β) (registry : Registry α) :
    ((get : Handler α (Registry α)) >>= next) registry = next registry registry := rfl

omit [Scalar α] in
theorem given_bind_of_ok {β γ : Type} {outcome : Except Refusal β} {value : β}
    (known : outcome = .ok value) (next : β → Handler α γ) (registry : Registry α) :
    (given outcome >>= next) registry = next value registry := by
  rw [known]
  rfl

theorem parameters_eq {table : FunctionTable α} {registry : Registry α} {params : Json}
    {lines : List Json} {store : Store α}
    (asked : (params.member? "lines").bind Json.items? = some lines)
    (registered : registerLines (Store.empty registry table) lines = .ok store) :
    parameters table params registry = (.ok (passJson store).1, (passJson store).2) := by
  rw [parameters, asked]
  dsimp only
  rw [get_bind, given_bind_of_ok registered]
  rfl

/-- The failures that a pass returns are exactly those that it leaves behind, whatever
was asked of the store before; and an answer of the service shows every registered
line once, with the amount or with the failure of its parameter. -/
theorem pass_reports_exactly (registry : Registry α) (table : FunctionTable α) :
    (∀ calls : List (Store.Call α), (∀ call ∈ calls, call.Genuine) →
      ∀ pass : PassToken, pass.isEmpty = false →
        let store := (Store.empty registry table).run calls
        let run := Store.updateAll pass store
        run.2.ids = store.ids ∧ Store.ReportsExactly pass run.1 run.2) ∧
    ∀ (params : Json) (lines : List Json) (store : Store α),
      (params.member? "lines").bind Json.items? = some lines →
      registerLines (Store.empty registry table) lines = .ok store →
        ∃ (described : List (Parameter α)) (values errors : List Json) (grown : Registry α),
          Describes lines described ∧ store.ids = described.map (·.id) ∧ store.ids.Nodup ∧
          parameters table params registry =
            (.ok (.object [("values", .array values), ("errors", .array errors)]), grown) ∧
          store.runPass.2.ids = store.ids ∧ Accounts store.runPass.2 values errors := by
  constructor
  · intro calls genuine pass real store run
    obtain ⟨ids, _, reports⟩ := Store.reportsExactly_updateAll _
      (Store.nodup_ids_run registry table calls) (Store.run_obtained registry table genuine) real
    exact ⟨ids, reports⟩
  · intro params lines store asked registered
    obtain ⟨described, describes, distinct, added⟩ :=
      registerLines_eq_ok registered List.nodup_nil
    have obtained : store.pool.Every Parameter.Obtained := by
      rw [added]
      exact describes.obtained
    have ids : store.ids = described.map (·.id) := by
      rw [added]
      rfl
    obtain ⟨values, errors, shown, kept, accounts⟩ :=
      passJson_accounts distinct obtained (by rw [added]; rfl)
    refine ⟨described, values, errors, (passJson store).2, describes, ids, distinct, ?_, kept,
      accounts⟩
    rw [parameters_eq asked registered, shown]

/-- Two parameters that are formulas of each other, and one that is not. -/
def circle : List (Parameter ℚ) :=
  [.formula "chicken" "[egg]" "", .formula "egg" "[chicken]" "", .formula "two" "1 + 1" ""]

/-- The lines of the circle. -/
def circleLines : List Json :=
  [.string "[egg];;;;;;chicken", .string "[chicken];;;;;;egg", .string "1 + 1;;;;;;two"]

theorem registerLines_circle :
    registerLines (Store.empty (.empty {} []) .standard) circleLines =
      .ok (Store.unitless circle) := by
  rfl

/-- A parameter outside the circle is changed, and one inside it is evaluated. -/
def circleCalls : List (Store.Call ℚ) :=
  circle.map .register ++
    [.change "two" (.ofEdit (.formula .override "3 - 1" "")), .evaluate "egg" ⟨1⟩]

/-- The circle fails as a whole, though one of it was evaluated before, and the amount
of the other one is answered. -/
theorem pass_reports_exactly_circle :
    let run := Store.updateAll ⟨1⟩ ((Store.empty (.empty {} []) .standard).run circleCalls)
    Store.ReportsExactly ⟨1⟩ run.1 run.2 ∧
      run.1.map (fun failure => (failure.1, failure.2.code)) =
        [("chicken", "CIRCULAR_REF"), ("egg", "CIRCULAR_REF")] ∧
      ∃ (values errors : List Json) (grown : Registry ℚ),
        parameters .standard (.object [("lines", .array circleLines)]) (.empty {} []) =
          (.ok (.object [("values", .array values), ("errors", .array errors)]), grown) ∧
        Accounts (Store.unitless circle).runPass.2 values errors := by
  obtain ⟨passes, answers⟩ :=
    pass_reports_exactly (Registry.empty {} [] : Registry ℚ) FunctionTable.standard
  have genuine : ∀ call ∈ circleCalls, call.Genuine := by
    simp only [circleCalls, circle, List.map_cons, List.map_nil, List.cons_append,
      List.nil_append, List.forall_mem_cons]
    exact ⟨.formula _ _ _, .formula _ _ _, .formula _ _ _, Store.genuine_ofEdit _ _, trivial,
      fun _ member => absurd member List.not_mem_nil⟩
  obtain ⟨_, values, errors, grown, _, _, _, answered, _, accounts⟩ :=
    answers (.object [("lines", .array circleLines)]) circleLines _ rfl registerLines_circle
  exact ⟨(passes _ genuine ⟨1⟩ (by decide)).2, by decide +kernel, values, errors, grown,
    answered, accounts⟩

end Service

end Metrology

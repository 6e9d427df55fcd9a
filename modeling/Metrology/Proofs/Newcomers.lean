import Metrology.Proofs.Exact
import Metrology.Proofs.Representation

/-!
# Tokens and newcomers

A token is tried as an expression, a display name, a former name and a loose match, in
this order, and growth brings new units to every trial.  An answer lasts exactly while no
new unit answers an earlier trial, or the same one if it has to be the only match.
-/

namespace Metrology

/-- Whether a token names a unit when case and plural are disregarded. -/
def UnitEntry.isLike {α : Type} (token : String) (entry : UnitEntry α) : Bool :=
  entry.unit.expression != "" &&
    ((Registry.looseForms token).contains (Text.lower entry.unit.expression.toList) ||
      (Registry.looseForms token).contains (Text.lower entry.unit.name.toList))

namespace Registry

variable {α : Type} {earlier later : Registry α}

/-! ## Newcomers -/

/-- The units that a registry has beyond an earlier one. -/
def newcomers (earlier later : Registry α) : List (UnitEntry α) :=
  later.entries.drop earlier.entries.length

theorem entries_eq_append (kept : earlier.Extends later) :
    later.entries = earlier.entries ++ earlier.newcomers later :=
  (List.prefix_iff_eq_append.1 kept.entries).symm

/-- A newcomer was not there before. -/
theorem ne_of_mem_newcomers (kept : earlier.Extends later) {entry newcomer : UnitEntry α}
    (known : entry ∈ earlier.entries) (new : newcomer ∈ earlier.newcomers later) :
    newcomer ≠ entry := by
  rintro rfl
  have ordered := pairwise_entries later
  rw [entries_eq_append kept] at ordered
  have before := (List.pairwise_append.1 ordered).2.2 newcomer known newcomer new
  exact before.asymm before

/-- A search without an answer finds a newcomer, or none fits. -/
theorem find?_cases (kept : earlier.Extends later) {wanted : UnitEntry α → Bool}
    (missing : earlier.entries.find? wanted = none) :
    (∃ newcomer ∈ earlier.newcomers later, wanted newcomer = true ∧
        later.entries.find? wanted = some newcomer) ∨
      ((∀ newcomer ∈ earlier.newcomers later, wanted newcomer ≠ true) ∧
        later.entries.find? wanted = none) := by
  rw [entries_eq_append kept, List.find?_append, missing, Option.none_or]
  cases search : (earlier.newcomers later).find? wanted with
  | none => exact .inr ⟨List.find?_eq_none.1 search, rfl⟩
  | some newcomer =>
      exact .inl ⟨newcomer, List.mem_of_find?_eq_some search, List.find?_some search, rfl⟩

theorem find?_of_some (kept : earlier.Extends later) {wanted : UnitEntry α → Bool}
    {entry : UnitEntry α} (found : earlier.entries.find? wanted = some entry) :
    later.entries.find? wanted = some entry :=
  kept.entries.find?_eq_some found

theorem findFormerName?_of_some (kept : earlier.Extends later) {token : String}
    {entry : UnitEntry α} (found : earlier.findFormerName? token = some entry) :
    later.findFormerName? token = some entry := by
  unfold findFormerName? presentName? at found ⊢
  rw [kept.legacy]
  obtain ⟨present, renamed, found⟩ := Option.bind_eq_some_iff.1 found
  rw [renamed, Option.bind_some]
  exact kept.findExpression? found

/-- A former name without an answer stands for a newcomer, or for none. -/
theorem findFormerName?_cases (kept : earlier.Extends later) {token : String}
    (missing : earlier.findFormerName? token = none) :
    (∃ newcomer ∈ earlier.newcomers later,
        earlier.presentName? token = some newcomer.expression ∧
        later.findFormerName? token = some newcomer) ∨
      ((∀ newcomer ∈ earlier.newcomers later,
        earlier.presentName? token ≠ some newcomer.expression) ∧
        later.findFormerName? token = none) := by
  have renamed : later.presentName? token = earlier.presentName? token := by
    rw [presentName?, presentName?, kept.legacy]
  unfold findFormerName? at missing ⊢
  rw [renamed]
  cases present : earlier.presentName? token with
  | none => exact .inr ⟨fun _ _ => nofun, rfl⟩
  | some expression =>
      rw [present, Option.bind_some] at missing
      rcases find?_cases kept missing with ⟨newcomer, new, carries, found⟩ | ⟨others, none_left⟩
      · exact .inl ⟨newcomer, new, congrArg some (beq_iff_eq.1 carries).symm, found⟩
      · refine .inr ⟨fun newcomer new same => others newcomer new ?_, none_left⟩
        exact beq_iff_eq.2 (Option.some.inj same).symm

theorem looseMatches_eq_append (kept : earlier.Extends later) (token : String) :
    later.looseMatches token =
      earlier.looseMatches token ++ (earlier.newcomers later).filter (·.isLike token) := by
  change later.entries.filter (·.isLike token) =
    earlier.entries.filter (·.isLike token) ++ _
  rw [entries_eq_append kept, List.filter_append]

/-! ## Lasting answers -/

/-- No newcomer answers a token before the registry does.  A loose match must in addition
stay the only one. -/
def Lasts (registry : Registry α) (newcomers : List (UnitEntry α)) (token : String) : Prop :=
  match registry.findExpression? token with
  | some _ => True
  | none => (∀ newcomer ∈ newcomers, newcomer.expression ≠ token) ∧
    match registry.findDisplayName? token with
    | some _ => True
    | none => (∀ newcomer ∈ newcomers, newcomer.unit.name ≠ token) ∧
      match registry.findFormerName? token with
      | some _ => True
      | none =>
          (∀ newcomer ∈ newcomers, registry.presentName? token ≠ some newcomer.expression) ∧
            ∀ newcomer ∈ newcomers, newcomer.isLike token ≠ true

/-- A token stands for a newcomer or is ambiguous. -/
def Displaced (earlier later : Registry α) (token : String) : Prop :=
  (∃ newcomer ∈ earlier.newcomers later, later.findUnit token = .ok newcomer) ∨
    ∃ candidates, later.findUnit token = .error (.ambiguousUnit (Text.trimmed token) candidates)

theorem Displaced.ne (kept : earlier.Extends later) {token : String} {entry : UnitEntry α}
    (known : entry ∈ earlier.entries) (displaced : earlier.Displaced later token) :
    later.findUnit token ≠ .ok entry := by
  rintro found
  rcases displaced with ⟨newcomer, new, other⟩ | ⟨candidates, refused⟩
  · rw [found] at other
    exact ne_of_mem_newcomers kept known new (Except.ok.inj other).symm
  · rw [found] at refused
    cases refused

/-- An only match lasts unless a newcomer matches too. -/
theorem loose_cases (kept : earlier.Extends later) {token : String} {entry : UnitEntry α}
    (only : earlier.looseMatches token = [entry]) :
    (∃ newcomer ∈ earlier.newcomers later, newcomer.isLike token = true ∧
        ∃ second others, later.looseMatches token = entry :: second :: others) ∨
      ((∀ newcomer ∈ earlier.newcomers later, newcomer.isLike token ≠ true) ∧
        later.looseMatches token = [entry]) := by
  rw [looseMatches_eq_append kept, only]
  cases alike : (earlier.newcomers later).filter (·.isLike token) with
  | nil => exact .inr ⟨List.filter_eq_nil_iff.1 alike, rfl⟩
  | cons second others =>
      have member : second ∈ (earlier.newcomers later).filter (·.isLike token) := by
        rw [alike]
        exact List.mem_cons_self
      obtain ⟨new, like⟩ := List.mem_filter.1 member
      exact .inl ⟨second, new, like, second, others, rfl⟩

/-- An answer lasts, or it has been displaced. -/
theorem lasts_or_displaced (kept : earlier.Extends later) {token : String}
    {entry : UnitEntry α} (found : earlier.findUnit token = .ok entry) :
    (earlier.Lasts (earlier.newcomers later) (Text.trimmed token) ∧
        later.findUnit token = .ok entry) ∨
      (¬earlier.Lasts (earlier.newcomers later) (Text.trimmed token) ∧
        earlier.Displaced later token) := by
  unfold Displaced Lasts
  unfold findUnit at found ⊢
  dsimp only at found ⊢
  generalize Text.trimmed token = token at found ⊢
  -- Each trial answers, or is answered by a newcomer, or leaves the token to the next one.
  rcases (Option.eq_none_or_eq_some (earlier.findExpression? token)).symm with
    ⟨unit, before⟩ | before
  · simp only [before, kept.findExpression? before] at found ⊢
    exact .inl ⟨trivial, found⟩
  rcases find?_cases kept before with ⟨newcomer, new, carries, after⟩ | ⟨others, after⟩
  · right
    simp only [before, show later.findExpression? token = some newcomer from after]
    exact ⟨fun lasts => lasts.1 newcomer new (beq_iff_eq.1 carries), .inl ⟨newcomer, new, rfl⟩⟩
  have noExpression : ∀ newcomer ∈ earlier.newcomers later, newcomer.expression ≠ token :=
    fun newcomer new same => others newcomer new (beq_iff_eq.2 same)
  simp only [before, show later.findExpression? token = none from after] at found ⊢
  rcases (Option.eq_none_or_eq_some (earlier.findDisplayName? token)).symm with
    ⟨unit, before⟩ | before
  · have after : later.findDisplayName? token = some unit := find?_of_some kept before
    simp only [before, after] at found ⊢
    exact .inl ⟨⟨noExpression, trivial⟩, found⟩
  rcases find?_cases kept before with ⟨newcomer, new, named, after⟩ | ⟨others, after⟩
  · right
    simp only [before, show later.findDisplayName? token = some newcomer from after]
    exact ⟨fun lasts => lasts.2.1 newcomer new (beq_iff_eq.1 named), .inl ⟨newcomer, new, rfl⟩⟩
  have noName : ∀ newcomer ∈ earlier.newcomers later, newcomer.unit.name ≠ token :=
    fun newcomer new same => others newcomer new (beq_iff_eq.2 same)
  simp only [before, show later.findDisplayName? token = none from after] at found ⊢
  rcases (Option.eq_none_or_eq_some (earlier.findFormerName? token)).symm with
    ⟨unit, before⟩ | before
  · simp only [before, findFormerName?_of_some kept before] at found ⊢
    exact .inl ⟨⟨noExpression, noName, trivial⟩, found⟩
  rcases findFormerName?_cases kept before with ⟨newcomer, new, renamed, after⟩ | ⟨noFormer, after⟩
  · right
    simp only [before, after]
    exact ⟨fun lasts => lasts.2.2.1 newcomer new renamed, .inl ⟨newcomer, new, rfl⟩⟩
  simp only [before, after] at found ⊢
  split at found
  · cases found
  · next only =>
      cases found
      rcases loose_cases kept only with
        ⟨newcomer, new, like, second, others, all⟩ | ⟨noMatch, all⟩
      · right
        rw [all]
        exact ⟨fun lasts => lasts.2.2.2 newcomer new like, .inr ⟨_, rfl⟩⟩
      · left
        rw [all]
        exact ⟨⟨noExpression, noName, noFormer, noMatch⟩, rfl⟩
  · cases found

variable [Scalar α]

/-- Calls leave a token its unit exactly while the answer lasts.  Otherwise the token
stands for a newcomer or is ambiguous. -/
theorem findUnit_run_iff {registry : Registry α} {token : String} {entry : UnitEntry α}
    (found : registry.findUnit token = .ok entry) (calls : List (Call α)) :
    ((registry.run calls).findUnit token = .ok entry ↔
        registry.Lasts (registry.newcomers (registry.run calls)) (Text.trimmed token)) ∧
      ((registry.run calls).findUnit token ≠ .ok entry →
        registry.Displaced (registry.run calls) token) := by
  have kept := Extends.run registry calls
  rcases lasts_or_displaced kept found with ⟨lasts, same⟩ | ⟨ended, displaced⟩
  · exact ⟨⟨fun _ => lasts, fun _ => same⟩, fun other => absurd same other⟩
  · have differs := displaced.ne kept (mem_of_findUnit found)
    exact ⟨⟨fun same => absurd same differs, fun lasts => absurd lasts ended⟩,
      fun _ => displaced⟩

/-! ## A name that becomes ambiguous -/

/-- Units whose names can be put together in two ways. -/
def tariffDocument : Definitions ℚ where
  quantities :=
    [⟨"power", "P", .power, 0, [.proportional "W" "watt" 1]⟩,
      ⟨"currency", "C", .currency, 0, [.proportional "$" "dollar" 1]⟩,
      ⟨"velocity", "v", .velocity, 0, [.proportional "m/s" "meter per second" 1]⟩]
  legacy := []

/-- Expressions after which one unit has the name of the token in another case. -/
def tariffExpressions : List String :=
  ["W/$", "W/$*meter per second"]

/-- The name of `W*s/$*m`, which `W*m/$*s` comes to share. -/
def tariffToken : String :=
  "Watt per dollar meter per second"

theorem exists_tariff :
    ∃ (start : Registry ℚ) (entry : UnitEntry ℚ),
      ofDefinitions tariffDocument {} = .ok start ∧
      (start.normalizeAll tariffExpressions).findUnit tariffToken = .ok entry ∧
      ((start.normalizeAll tariffExpressions).normalizeAll
        ["watt per dollar*meter per second"]).findUnit tariffToken ≠ .ok entry := by
  have evaluated : ((ofDefinitions tariffDocument {}).toOption.map fun start =>
      (((start.normalizeAll tariffExpressions).findUnit tariffToken).isOk,
        (((start.normalizeAll tariffExpressions).normalizeAll
          ["watt per dollar*meter per second"]).findUnit tariffToken).isOk)) =
      some (true, false) := by
    decide +kernel
  cases loaded : ofDefinitions tariffDocument {} with
  | error failure =>
      rw [loaded] at evaluated
      cases evaluated
  | ok start =>
      rw [loaded, Except.toOption, Option.map_some, Option.some.injEq, Prod.mk.injEq] at evaluated
      obtain ⟨before, after⟩ := evaluated
      cases found : (start.normalizeAll tariffExpressions).findUnit tariffToken with
      | error failure =>
          rw [found] at before
          cases before
      | ok entry =>
          refine ⟨start, entry, rfl, found, fun kept => ?_⟩
          rw [kept] at after
          cases after

/-- Growth takes units from tokens. -/
theorem not_forall_findUnit_normalizeAll :
    ¬∀ (definitions : Definitions ℚ) (settings : Settings) (start : Registry ℚ)
      (expressions later : List String) (token : String) (entry : UnitEntry ℚ),
      ofDefinitions definitions settings = .ok start →
      (start.normalizeAll expressions).findUnit token = .ok entry →
      (start.normalizeAll (expressions ++ later)).findUnit token = .ok entry := by
  intro always
  obtain ⟨start, entry, loaded, found, lost⟩ := exists_tariff
  have kept := always _ _ _ _ ["watt per dollar*meter per second"] _ _ loaded found
  rw [normalizeAll_append] at kept
  exact lost kept

theorem findUnit_run_iff_tariff :
    ∃ (start : Registry ℚ) (entry : UnitEntry ℚ),
      ofDefinitions tariffDocument {} = .ok start ∧
      (start.normalizeAll tariffExpressions).findUnit tariffToken = .ok entry ∧
      ¬(start.normalizeAll tariffExpressions).Lasts
        ((start.normalizeAll tariffExpressions).newcomers
          ((start.normalizeAll tariffExpressions).normalizeAll
            ["watt per dollar*meter per second"])) (Text.trimmed tariffToken) ∧
      (start.normalizeAll tariffExpressions).Displaced
        ((start.normalizeAll tariffExpressions).normalizeAll
          ["watt per dollar*meter per second"]) tariffToken := by
  obtain ⟨start, entry, loaded, found, lost⟩ := exists_tariff
  obtain ⟨same_iff, displaced⟩ := findUnit_run_iff found
    (["watt per dollar*meter per second"].map .normalize)
  exact ⟨start, entry, loaded, found, fun lasts => lost (same_iff.2 lasts), displaced lost⟩

end Registry

end Metrology

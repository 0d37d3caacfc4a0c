import Stencil.Registry

/-!
Registries whose fragments are built in or were validated.

Owns `Registry.Validated`, and `Registry.refusal?`, which tells why a registration with validation
refuses a filter. What validation gives is that every fragment is an expression by itself in which
one is the greatest index of a group (`Validated.ofText`); whether it stays so in the midst of a
pattern is not told here.
-/

namespace Stencil

open Regex

namespace Registry

theorem get?_register (registry : Registry) (name fragment other : String) :
    (registry.register name fragment).get? other =
      if name = other then some fragment else registry.get? other := by
  unfold register get?
  rw [Std.ExtTreeMap.getElem?_insert]
  simp

theorem get?_register_self {registry : Registry} {name fragment : String} :
    (registry.register name fragment).get? name = some fragment := by
  rw [get?_register, if_pos rfl]

theorem get?_register_of_ne {registry : Registry} {name fragment other : String}
    (differs : name ≠ other) :
    (registry.register name fragment).get? other = registry.get? other := by
  rw [get?_register, if_neg differs]

theorem mem_of_get?_registerAll {filters : List (String × String)} {registry : Registry}
    {name fragment : String} (found : (registry.registerAll filters).get? name = some fragment) :
    (name, fragment) ∈ filters ∨ registry.get? name = some fragment := by
  induction filters generalizing registry with
  | nil => exact .inr found
  | cons filter rest inductionHypothesis =>
      cases inductionHypothesis found with
      | inl listed => exact .inl (List.mem_cons_of_mem _ listed)
      | inr before =>
          rw [get?_register] at before
          split at before
          next same =>
            left
            rw [← same, ← Option.some.inj before]
            exact List.mem_cons_self
          next => exact .inr before

variable [Measure]

/-- Every entry is a built-in filter or was accepted by a registration with validation. -/
def Validated (registry : Registry) : Prop :=
  ∀ name fragment, registry.get? name = some fragment →
    (name, fragment) ∈ builtinFilters ∨
      ∃ (grammar : Grammar) (base extended : Registry),
        base.tryRegister grammar name fragment = .ok extended

theorem validated_builtin : builtin.Validated := by
  intro name fragment found
  cases mem_of_get?_registerAll found with
  | inl listed => exact .inl listed
  | inr before => simp [empty, get?] at before

theorem Validated.register {registry : Registry} (validated : registry.Validated)
    {grammar : Grammar} {base extended : Registry} {name fragment : String}
    (accepted : base.tryRegister grammar name fragment = .ok extended) :
    (registry.register name fragment).Validated := by
  intro other found registered
  rw [get?_register] at registered
  split at registered
  next same =>
    obtain rfl := Option.some.inj registered
    exact .inr ⟨grammar, base, extended, same ▸ accepted⟩
  next => exact validated other found registered

/-- Why a filter is not accepted, if it is not. The registered filters have no say in it. -/
def refusal? (grammar : Grammar) (name fragment : String) : Option Error :=
  if grammar.isIdentifier name then
    (fragmentFault? fragment).map fun fault => .invalidFragment name fault.message
  else some (.invalidFilterName name)

theorem tryRegister_eq (registry : Registry) (grammar : Grammar) (name fragment : String) :
    registry.tryRegister grammar name fragment =
      match refusal? grammar name fragment with
      | some error => .error error
      | none => .ok (registry.register name fragment) := by
  unfold tryRegister refusal?
  cases grammar.isIdentifier name with
  | false => rfl
  | true => cases fragmentFault? fragment <;> rfl

theorem tryRegister_of_valid (registry : Registry) (grammar : Grammar) {name fragment : String}
    (isIdentifier : grammar.isIdentifier name = true) (valid : fragmentFault? fragment = none) :
    registry.tryRegister grammar name fragment = .ok (registry.register name fragment) := by
  unfold tryRegister
  rw [isIdentifier, valid]
  rfl

/-- What is accepted has an identifier as its name and a valid fragment, and is registered. -/
theorem tryRegister_eq_ok_iff {registry extended : Registry} {grammar : Grammar}
    {name fragment : String} :
    registry.tryRegister grammar name fragment = .ok extended ↔
      grammar.isIdentifier name = true ∧ fragmentFault? fragment = none ∧
        registry.register name fragment = extended := by
  unfold tryRegister
  cases grammar.isIdentifier name with
  | false => simp
  | true => cases fragmentFault? fragment <;> simp

theorem fragmentFault?_of_tryRegister {registry extended : Registry} {grammar : Grammar}
    {name fragment : String} (accepted : registry.tryRegister grammar name fragment = .ok extended) :
    fragmentFault? fragment = none :=
  (tryRegister_eq_ok_iff.mp accepted).2.1

end Registry

/-- The built-in fragments are expressions that report one group. -/
theorem ofText_of_builtin {name fragment : String} (listed : (name, fragment) ∈ builtinFilters) :
    ∃ expr, Expr.ofText fragment.toList = .ok expr ∧ expr.lastGroup = 1 := by
  have reads : (Expr.ofText fragment.toList).toOption.map Expr.lastGroup = some 1 := by
    simp only [builtinFilters, List.mem_cons, List.not_mem_nil, or_false, Prod.mk.injEq] at listed
    rcases listed with ⟨_, rfl⟩ | ⟨_, rfl⟩ | ⟨_, rfl⟩ | ⟨_, rfl⟩ | ⟨_, rfl⟩ | ⟨_, rfl⟩ | ⟨_, rfl⟩ |
      ⟨_, rfl⟩ | ⟨_, rfl⟩ | ⟨_, rfl⟩ | ⟨_, rfl⟩ | ⟨_, rfl⟩ | ⟨_, rfl⟩ | ⟨_, rfl⟩ | ⟨_, rfl⟩
    all_goals decide +kernel
  cases parsed : Expr.ofText fragment.toList with
  | error cause => simp [parsed, Except.toOption] at reads
  | ok expr =>
      rw [parsed] at reads
      exact ⟨expr, rfl, Option.some.inj reads⟩

variable [Measure]

/-- A valid fragment is an expression by itself that reports one group. -/
theorem ofText_of_fragmentFault? {fragment : String} (valid : fragmentFault? fragment = none) :
    ∃ expr, Expr.ofText fragment.toList = .ok expr ∧ expr.lastGroup = 1 := by
  unfold fragmentFault? Regex.compile at valid
  cases parsed : Expr.ofText fragment.toList with
  | error cause => simp [parsed] at valid
  | ok expr =>
      refine ⟨expr, rfl, ?_⟩
      by_cases tooLarge : defaultSizeLimit < Measure.bytes expr
      · simp [parsed, tooLarge] at valid
      · simp only [parsed, if_neg tooLarge, Regex.groupCount] at valid
        exact Decidable.byContradiction fun several => by simp [several] at valid

theorem Registry.Validated.ofText {registry : Registry} (validated : registry.Validated)
    {name fragment : String} (registered : registry.get? name = some fragment) :
    ∃ expr, Expr.ofText fragment.toList = .ok expr ∧ expr.lastGroup = 1 := by
  rcases validated name fragment registered with listed | ⟨grammar, base, extended, accepted⟩
  · exact ofText_of_builtin listed
  · exact ofText_of_fragmentFault? (fragmentFault?_of_tryRegister accepted)

end Stencil

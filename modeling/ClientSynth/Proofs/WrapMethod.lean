import Mathlib.Data.List.Basic
import ClientSynth.Layer.WrapMethod
import ClientSynth.Naming

/-! # Variants of a method

A wrap method is the variant of its client method for one scope, which stands in for
the scope of a token that takes either.  A method without such a token has one
variant, the same for every scope; any other has one for tenants and one for users. -/
namespace ClientSynth

namespace Naming

/-- The two scopes give different names, before a final `Async` as well as in front. -/
theorem withScope_tenant_ne_user (name : String) :
    withScope name "Tenant" ≠ withScope name "User" := by
  intro h
  unfold withScope at h
  split at h
  · split at h
    · have htoList := congrArg String.toList h
      simp at htoList
    · have htoList := congrArg String.toList h
      simp at htoList
  · have htoList := congrArg String.toList h
    simp at htoList

end Naming

namespace Layer

open Contract

/-- The concrete scope of a token; `chosen` stands in for either scope. -/
def concreteScope (chosen : Scope) : Role → Scope
  | .token .tenant _ => .tenant
  | .token .user _ => .user
  | _ => chosen

/-- The slot of a token parameter in the variant for a scope. -/
def slotFor (chosen : Scope) (p : Parameter) : TokenSlot := ⟨p, concreteScope chosen p.role⟩

/-- The variant of a method for a scope, under a name. -/
def variant (m : Method) (name : String) (chosen : Scope) : WrapMethod :=
  ⟨name, m, openParameters m, m.tokens.map (slotFor chosen)⟩

variable {m : Method}

theorem isToken_of_mem_tokens {p : Parameter} (hp : p ∈ m.tokens) :
    ∃ scope header, p.role = .token scope header := by
  have htoken : p.role.isToken = true := (List.mem_filter.mp hp).2
  revert htoken
  cases p.role with
  | token scope header => exact fun _ => ⟨scope, header, rfl⟩
  | _ => exact fun h => nomatch h

theorem hasBothToken_iff :
    hasBothToken m = true ↔ ∃ p ∈ m.parameters, p.role.isBothToken = true := by
  rw [hasBothToken, List.any_eq_true]
  constructor
  · rintro ⟨p, hp, hboth⟩
    exact ⟨p, (List.mem_filter.mp hp).1, hboth⟩
  · rintro ⟨p, hp, hboth⟩
    refine ⟨p, List.mem_filter.mpr ⟨hp, ?_⟩, hboth⟩
    revert hboth
    cases p.role <;> simp [Role.isBothToken, Role.isToken]

/-! ### Slots -/

theorem tokenSlots_some (chosen : Scope) :
    tokenSlots m (some chosen) = m.tokens.map (slotFor chosen) := by
  rw [tokenSlots, List.filterMap_congr, List.filterMap_eq_map]
  intro p hp
  obtain ⟨scope, header, hrole⟩ := isToken_of_mem_tokens hp
  cases scope <;> simp [tokenSlot, slotFor, concreteScope, hrole]

/-- Without a token of either scope no slot asks for one. -/
theorem tokenSlots_none (h : hasBothToken m = false) (chosen : Scope) :
    tokenSlots m none = m.tokens.map (slotFor chosen) := by
  rw [← tokenSlots_some, tokenSlots, tokenSlots]
  refine List.filterMap_congr (fun p hp => ?_)
  obtain ⟨scope, header, hrole⟩ := isToken_of_mem_tokens hp
  cases scope with
  | both =>
      -- A slot that takes either scope is the one that the method does not have.
      have hboth : hasBothToken m = true :=
        List.any_eq_true.mpr ⟨p, hp, by rw [hrole]; rfl⟩
      rw [h] at hboth
      cases hboth
  | _ => simp [tokenSlot, hrole]

/-! ### Expansion -/

theorem expandMethod_of_hasBothToken (h : hasBothToken m = true) :
    expandMethod m =
      [variant m (Naming.withScope m.name "Tenant") .tenant,
        variant m (Naming.withScope m.name "User") .user] := by
  rw [expandMethod, if_pos h]
  simp [Scope.concrete, Scope.name, variant, tokenSlots_some]

theorem expandMethod_of_no_bothToken (h : hasBothToken m = false) (chosen : Scope) :
    expandMethod m = [variant m m.name chosen] := by
  rw [expandMethod, if_neg (by simp [h]), tokenSlots_none h chosen, variant]

/-- Every wrap method is a variant. -/
theorem exists_variant {w : WrapMethod} (hw : w ∈ expandMethod m) :
    ∃ name chosen, w = variant m name chosen := by
  cases h : hasBothToken m with
  | true =>
      rw [expandMethod_of_hasBothToken h] at hw
      rcases List.mem_cons.mp hw with hw | hw
      · exact ⟨_, _, hw⟩
      · exact ⟨_, _, List.mem_singleton.mp hw⟩
  | false =>
      rw [expandMethod_of_no_bothToken h .tenant] at hw
      exact ⟨_, _, List.mem_singleton.mp hw⟩

end Layer
end ClientSynth

import Blueprint.Proofs.Tier.Declaration
import Blueprint.Tier.Email

/-! The email tier takes nothing from others, and its declaration never fails. -/

namespace Blueprint.Email

/-- What later tiers may rely on. -/
structure Created (scope : Scope) (tier : Tier CredentialHandle) : Prop where
  name : tier.topology.name = scope.topologyName "Email"
  region : tier.topology.region = scope.region
  declares : tier.topology.Declares []
  exportNames : tier.topology.exportNames = ["OutputEmailSecretArn"]
  secret : tier.topology.Offers tier.handle.secret

/-- The topology before anything is declared in it. -/
def bare (scope : Scope) : Topology := .new (scope.topologyName "Email") scope.region

def ids : List ResourceId := [userId, policyId, credentialsId, secretId]

theorem ids_resources (t : Topology) (scope : Scope) :
    (resources t scope).map Resource.id = ids := rfl

theorem sound_resources (t : Topology) (scope : Scope) :
    ∀ resource ∈ resources t scope, resource.Sound (t.Draws [] ids) := by
  simp only [resources, List.forall_mem_cons, List.not_mem_nil, false_imp_iff, implies_true,
    and_true]
  refine ⟨⟨?_, ?_⟩, ⟨?_, ?_⟩, ⟨?_, ?_⟩, ⟨?_, ?_⟩⟩ <;>
    simp [Spec.values, Spec.mapKeys, PolicyHolder.value, PolicyStatement.allow, ids]

/-- The tier with all that it declares. -/
def declared (scope : Scope) : Tier CredentialHandle :=
  { topology := (bare scope).filled (resources (bare scope) scope)
      [.exported "OutputEmailSecretArn" ((bare scope).own secretId Attribute.self)]
    handle := ⟨secretName scope, (bare scope).reference secretId Attribute.self⟩ }

theorem create_eq_ok (scope : Scope) : create scope true = .ok (some (declared scope)) := by
  have hIds : ((resources (bare scope) scope).map Resource.id).Nodup := by
    rw [ids_resources]
    decide
  have hDeclare : (bare scope).declare (resources (bare scope) scope) =
      .ok ((bare scope).filled (resources (bare scope) scope) []) :=
    Topology.declare_of_bare rfl rfl hIds
  unfold create
  rw [if_pos rfl]
  exact bind_eq_ok_iff.mpr ⟨_, hDeclare, bind_eq_ok_iff.mpr
    ⟨_, Topology.tell_filled _ _ (List.nodup_singleton _), rfl⟩⟩

theorem created_declared (scope : Scope) : Created scope (declared scope) where
  name := rfl
  region := rfl
  declares := by
    refine Topology.declares_filled ids ["OutputEmailSecretArn"] rfl rfl (by decide) (by decide)
      (sound_resources _ scope) ?_ ?_
    · simp [Output.exported, ids]
    · simp [bare, Topology.new]
  exportNames := rfl
  secret := Topology.offers_reference (by rw [ids_resources]; decide) (by decide)

end Blueprint.Email

import Blueprint.Proofs.Deployment.Tiers
import Blueprint.Proofs.Tier.Kinds

/-! Which kinds of resources the tiers of a deployment declare. What only one tier can declare is
found in its topology or nowhere. -/

namespace Blueprint.Tiers

/-- Every tier declares resources of its own kinds only. -/
structure Sorted (tiers : Tiers) : Prop where
  base : ∀ resource ∈ tiers.base.topology.resources, resource.spec.kind ∈ Base.kinds
  data : ∀ resource ∈ tiers.data.topology.resources, resource.spec.kind ∈ Data.kinds
  email : ∀ email ∈ tiers.email, ∀ resource ∈ email.topology.resources,
    resource.spec.kind ∈ Email.kinds
  cert : ∀ cert ∈ tiers.cert, ∀ resource ∈ cert.topology.resources, resource.spec.kind ∈ Cert.kinds
  web : ∀ resource ∈ tiers.web.topology.resources, resource.spec.kind ∈ Web.kinds

theorem CreatedFor.sorted {c : Composition} {tiers : Tiers} (h : tiers.CreatedFor c)
    (hAdmissible : c.Admissible) : tiers.Sorted where
  base := by
    obtain ⟨subnets, hBase⟩ := h.eq_declared_base hAdmissible.maxAzs
    rw [hBase]
    exact Base.kind_mem
  data := by
    obtain ⟨instances, hData⟩ := h.eq_declared_data hAdmissible.replicas
    rw [hData]
    exact Data.kind_mem
  email := by
    intro email hEmail
    rw [h.eq_declared_email] at hEmail
    obtain ⟨-, hSame⟩ := Option.ite_none_right_eq_some.mp hEmail
    rw [← Option.some.inj hSame]
    exact Email.kind_mem
  cert := by
    intro cert hCert
    rcases h.eq_declared_cert with ⟨-, hNone⟩ | ⟨dns, domains, -, -, hSome⟩
    · rw [hNone] at hCert
      cases hCert
    · rw [hSome] at hCert
      rw [← Option.some.inj hCert]
      exact Cert.kind_mem
  web := by
    rw [h.eq_declared_web]
    exact Web.kind_mem

theorem allOf_assembly {α : Type} (read? : Spec → Option α) (tiers : Tiers) :
    tiers.assembly.allOf read? =
      tiers.base.topology.allOf read? ++ tiers.data.topology.allOf read? ++
        (tiers.email.toList.flatMap fun email => email.topology.allOf read?) ++
        (tiers.cert.toList.flatMap fun cert => cert.topology.allOf read?) ++
        tiers.web.topology.allOf read? :=
  flatMap_topologies _ tiers

namespace Sorted

variable {α : Type} {kind : String} {read? : Spec → Option α} {tiers : Tiers} (h : tiers.Sorted)
  (hReads : Spec.Reads kind read?)

include h hReads

theorem allOf_data_eq_nil (hOther : kind ∉ Data.kinds) :
    tiers.data.topology.allOf read? = [] :=
  Topology.allOf_eq_nil hReads h.data hOther

theorem allOf_email_eq_nil (hOther : kind ∉ Email.kinds) :
    (tiers.email.toList.flatMap fun email => email.topology.allOf read?) = [] :=
  List.flatMap_eq_nil_iff.mpr fun email hEmail =>
    Topology.allOf_eq_nil hReads (h.email email (Option.mem_toList.mp hEmail)) hOther

theorem allOf_cert_eq_nil (hOther : kind ∉ Cert.kinds) :
    (tiers.cert.toList.flatMap fun cert => cert.topology.allOf read?) = [] :=
  List.flatMap_eq_nil_iff.mpr fun cert hCert =>
    Topology.allOf_eq_nil hReads (h.cert cert (Option.mem_toList.mp hCert)) hOther

theorem allOf_eq_base
    (hOther : kind ∉ Data.kinds ∧ kind ∉ Email.kinds ∧ kind ∉ Cert.kinds ∧ kind ∉ Web.kinds) :
    tiers.assembly.allOf read? = tiers.base.topology.allOf read? := by
  obtain ⟨hData, hEmail, hCert, hWeb⟩ := hOther
  rw [allOf_assembly, h.allOf_data_eq_nil hReads hData, h.allOf_email_eq_nil hReads hEmail,
    h.allOf_cert_eq_nil hReads hCert, Topology.allOf_eq_nil hReads h.web hWeb]
  simp only [List.append_nil]

theorem allOf_eq_cert
    (hOther : kind ∉ Base.kinds ∧ kind ∉ Data.kinds ∧ kind ∉ Email.kinds ∧ kind ∉ Web.kinds) :
    tiers.assembly.allOf read? =
      tiers.cert.toList.flatMap fun cert => cert.topology.allOf read? := by
  obtain ⟨hBase, hData, hEmail, hWeb⟩ := hOther
  rw [allOf_assembly, Topology.allOf_eq_nil hReads h.base hBase, h.allOf_data_eq_nil hReads hData,
    h.allOf_email_eq_nil hReads hEmail, Topology.allOf_eq_nil hReads h.web hWeb]
  simp only [List.append_nil, List.nil_append]

theorem allOf_eq_web
    (hOther : kind ∉ Base.kinds ∧ kind ∉ Data.kinds ∧ kind ∉ Email.kinds ∧ kind ∉ Cert.kinds) :
    tiers.assembly.allOf read? = tiers.web.topology.allOf read? := by
  obtain ⟨hBase, hData, hEmail, hCert⟩ := hOther
  rw [allOf_assembly, Topology.allOf_eq_nil hReads h.base hBase, h.allOf_data_eq_nil hReads hData,
    h.allOf_email_eq_nil hReads hEmail, h.allOf_cert_eq_nil hReads hCert]
  simp only [List.nil_append]

end Sorted

end Blueprint.Tiers

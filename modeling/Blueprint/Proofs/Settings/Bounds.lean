import Blueprint.Proofs.Settings.Rules
import Blueprint.Proofs.Template.Names

/-! What holds of all settings that come out of a document. The names of topologies begin with
letters and digits, numbers that are written into identifiers have a bound, the domain and the host
are domain names, each for itself, and the name of the database is an identifier. -/

namespace Blueprint

/-- Settings from which tiers can be declared. -/
structure Settings.Bounded (settings : Settings) : Prop where
  name : IsAlnum settings.scope.name
  maxAzs : 1 ≤ settings.maxAzs ∧ settings.maxAzs ≤ 3
  replicas : 1 ≤ settings.database.replicas ∧ settings.database.replicas ≤ Bounds.nat32

namespace Document

variable {d : Document}

theorem isAlnum_of_beginsWithLetter {name : String}
    (h : Naming.BeginsWithLetter (fun c => Text.isAlnum c) name) : IsAlnum name := by
  obtain ⟨first, rest, hChars, hFirst, hRest⟩ := h
  rw [IsAlnum, hChars, List.all_cons, Text.isAlnum, hFirst, Bool.true_or, Bool.true_and,
    List.all_eq_true]
  exact hRest

theorem bounded_of_validate {settings : Settings} (h : d.validate = .ok settings) :
    settings.Bounded := by
  have hMeans := means_of_validate h
  have hScope : ∀ rule ∈ d.scopeRules, rule.holds := fun rule hMem =>
    rules_of_validate h rule (List.mem_cons_of_mem _ (List.mem_append_left _ hMem))
  obtain ⟨hName, -, hZones, -⟩ : _ ∧ _ ∧ _ ∧ _ := by
    simpa only [scopeRules, List.forall_mem_cons] using hScope
  have hReplicas := hMeans.replicas
  refine ⟨?_, ?_, ?_⟩
  · rw [hMeans.scope]
    exact isAlnum_of_beginsWithLetter hName
  · rw [hMeans.maxAzs]
    exact (getD_iff (P := fun n => 1 ≤ n ∧ n ≤ 3) (by decide)).mpr hZones
  · rw [Bounds.nat32] at hReplicas ⊢
    omega

theorem dnsNames_of_validate {settings : Settings} (h : d.validate = .ok settings) :
    Naming.IsDnsName 2 settings.dns.domain ∧
      ∀ host ∈ settings.dns.host, Naming.IsDnsName 1 host := by
  have hMeans := means_of_validate h
  have hDns : ∀ rule ∈ d.dnsRules, rule.holds := fun rule hMem => rules_of_validate h rule
    (List.mem_cons_of_mem _ (List.mem_append_right _ (List.mem_append_left _ hMem)))
  obtain ⟨hDomain, hHost, -⟩ : _ ∧ _ ∧ _ := by
    simpa only [dnsRules, List.forall_mem_cons] using hDns
  refine ⟨hMeans.domain ▸ hDomain, fun host hMem => ?_⟩
  rw [hMeans.host, trimmed?_eq] at hMem
  obtain ⟨hText, hSame⟩ := Option.ite_none_left_eq_some.mp hMem
  exact Option.some.inj hSame ▸ hHost.resolve_left hText

theorem isIdentifier_of_validate {settings : Settings} (h : d.validate = .ok settings) :
    Naming.IsIdentifier '-' settings.database.name := by
  have hDatabase : ∀ rule ∈ d.databaseRules, rule.holds := fun rule hMem =>
    rules_of_validate h rule (List.mem_cons_of_mem _ (List.mem_append_right _
      (List.mem_append_right _ (List.mem_append_left _ hMem))))
  rw [(means_of_validate h).name]
  exact hDatabase _ List.mem_cons_self

end Document

end Blueprint

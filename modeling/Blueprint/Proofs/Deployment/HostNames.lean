import Blueprint.Proofs.Deployment.PublicNames
import Blueprint.Proofs.Settings.Bounds

/-! The rule for domain names and the names under which a site is served. The host and the domain
are checked one by one and put together afterwards. The labels stay good, and there are enough of
them; only the length of the whole is nobody's concern, so a site may be served under a name that is
too long to be a domain name. -/

namespace Blueprint

namespace Naming

/-- Labels with dots between them, at least one and at least so many, of any length altogether. -/
def IsLabelled (minLabels : Nat) (name : String) : Prop :=
  ∃ labels : List String, labels ≠ [] ∧ minLabels ≤ labels.length ∧
    (∀ label ∈ labels, IsDnsLabel label) ∧ name = String.intercalate "." labels

theorem isDnsName_iff_isLabelled {minLabels : Nat} {name : String} :
    IsDnsName minLabels name ↔ IsLabelled minLabels name ∧ name.length ≤ 253 := Iff.rfl

theorem checkDnsName_eq_ok_iff {field name : String} {minLabels : Nat} :
    checkDnsName field minLabels name = .ok () ↔ IsDnsName minLabels name := by
  unfold checkDnsName
  split
  next hName => exact iff_of_true rfl (isDnsName_iff.mp hName)
  next hName => exact iff_of_false (fun h => by cases h) (mt isDnsName_iff.mpr hName)

/-- A name below another one has the labels of both. -/
theorem IsLabelled.append {m n : Nat} {host domain : String} (hHost : IsLabelled m host)
    (hDomain : IsLabelled n domain) : IsLabelled (m + n) (host ++ "." ++ domain) := by
  obtain ⟨front, hFront, hFrontCount, hFrontLabels, rfl⟩ := hHost
  obtain ⟨back, hBack, hBackCount, hBackLabels, rfl⟩ := hDomain
  refine ⟨front ++ back, List.append_ne_nil_of_left_ne_nil hFront back, ?_, ?_, ?_⟩
  · rw [List.length_append]
    exact Nat.add_le_add hFrontCount hBackCount
  · exact List.forall_mem_append.mpr ⟨hFrontLabels, hBackLabels⟩
  · exact (String.intercalate_append_of_ne_nil hFront hBack).symm

theorem IsLabelled.mono {m n : Nat} {name : String} (h : IsLabelled n name) (hLess : m ≤ n) :
    IsLabelled m name := by
  obtain ⟨labels, hSome, hCount, hLabels, hName⟩ := h
  exact ⟨labels, hSome, hLess.trans hCount, hLabels, hName⟩

theorem IsLabelled.of_isDnsLabel {label : String} (h : IsDnsLabel label) : IsLabelled 1 label :=
  ⟨[label], List.cons_ne_nil _ _, Nat.le_refl _, List.forall_mem_singleton.mpr h,
    String.intercalate_singleton.symm⟩

/-- There is nothing blank in a domain name, so trimming leaves it as it is. -/
theorem IsLabelled.trim_eq {minLabels : Nat} {name : String} (h : IsLabelled minLabels name) :
    Text.trim name = name := by
  obtain ⟨labels, -, -, hLabels, rfl⟩ := h
  have hDot : ∀ c ∈ ".".toList, Text.isBlank c = false := List.forall_mem_singleton.mpr (by decide)
  refine Text.trim_of_forall_not_blank (Text.forall_mem_intercalate hDot ?_)
  intro label hMem c hChar
  rcases (hLabels label hMem).chars c hChar with hAlnum | rfl
  · exact Text.isBlank_of_isAlnum hAlnum
  · decide

/-- A letter or digit, so many times. -/
theorem IsDnsLabel.replicate {n : Nat} {c : Char} (hSome : n ≠ 0) (hMost : n ≤ 63)
    (hChar : Text.isAlnum c) : IsDnsLabel (String.ofList (List.replicate n c)) := by
  have hSame : ∀ d ∈ List.replicate n c, d = c := fun _ => List.eq_of_mem_replicate
  have hHyphen : '-' ∉ List.replicate n c := by
    intro hMem
    rw [← hSame _ hMem] at hChar
    revert hChar
    decide
  constructor
  · simpa only [ne_eq, String.ofList_eq_empty_iff, List.replicate_eq_nil_iff] using hSome
  · rwa [String.length_ofList, List.length_replicate]
  all_goals rw [String.toList_ofList]
  · exact fun d hMem => .inl (hSame d hMem ▸ hChar)
  · exact fun hHead => hHyphen (List.mem_of_head? hHead)
  · exact fun hLast => hHyphen (List.mem_of_getLast? hLast)

end Naming

namespace DomainList

variable {dns : DnsSettings} {domains : DomainList} {name : String}

/-- Whatever is served has good labels, and not less of them than the domain. -/
theorem isLabelled_of_mem (h : ofDns dns = .ok domains) {minLabels : Nat}
    (hDomain : Naming.IsLabelled minLabels dns.domain)
    (hHost : ∀ host ∈ dns.host, Naming.IsLabelled 1 host) (hMem : name ∈ domains.toList) :
    Naming.IsLabelled minLabels name := by
  rcases (mem_toList_cases h).mp hMem with ⟨-, rfl⟩ | ⟨host, hSome, rfl⟩
  · exact hDomain
  · exact ((hHost host hSome).append hDomain).mono (Nat.le_add_left _ _)

/-- The names are short enough if the host and the domain are, with a dot between them. -/
theorem forall_length_iff (h : ofDns dns = .ok domains) (hDomain : dns.domain.length ≤ 253) :
    (∀ name ∈ domains.toList, name.length ≤ 253) ↔
      ∀ host ∈ dns.host, host.length + dns.domain.length ≤ 252 := by
  have hLength : ∀ host : String,
      (host ++ "." ++ dns.domain).length = host.length + 1 + dns.domain.length := by
    intro host
    rw [String.length_append, String.length_append]
    rfl
  constructor
  · intro hShort host hSome
    have hName := hShort _ ((mem_toList_cases h).mpr (.inr ⟨host, hSome, rfl⟩))
    rw [hLength] at hName
    omega
  · intro hShort name hMem
    rcases (mem_toList_cases h).mp hMem with ⟨-, rfl⟩ | ⟨host, hSome, rfl⟩
    · exact hDomain
    · have hHost := hShort host hSome
      rw [hLength]
      omega

end DomainList

/-- The names that certificates, content networks and records are declared for. -/
def Assembly.hostNames (a : Assembly) : List String :=
  (a.allOf Spec.certificate?).flatMap (fun certificate =>
      certificate.2.2.domainName :: certificate.2.2.alternativeNames) ++
    (a.allOf Spec.distribution?).flatMap (fun distribution =>
      distribution.2.2.viewerCertificate.aliases) ++
    (a.allOf Spec.aliasRecord?).map fun record => record.2.2.name

theorem Assembly.ServesUnder.mem_hostNames_iff {a : Assembly} {base cert web : Topology}
    {zone : ResourceId × HostedZone} {certificate : ResourceId × Certificate}
    {distribution : ResourceId × Distribution}
    (h : a.ServesUnder base cert web zone certificate distribution) {name : String} :
    name ∈ a.hostNames ↔ name ∈ distribution.2.viewerCertificate.aliases := by
  rw [hostNames, h.certificates, h.distributions, List.flatMap_singleton, List.flatMap_singleton,
    ← h.aliases, List.mem_append, List.mem_append, List.mem_map, ← h.resolved, or_self, or_self]

namespace Document

/-- A document with another host under another domain. -/
def under (d : Document) (host domain : String) : Document :=
  { d with dnsDomain := some domain, dnsDomainHost := some host }

/-- Any host under any domain is accepted, as long as both are domain names. -/
theorem validate_under {d : Document} {settings : Settings} {host domain : String}
    (h : d.validate = .ok settings) (hHost : Naming.IsDnsName 1 host)
    (hDomain : Naming.IsDnsName 2 domain) :
    ∃ settings', (d.under host domain).validate = .ok settings' ∧
      settings'.dns = ⟨domain, some host, settings.dns.root⟩ := by
  have hBareDomain : bare (some domain) = domain := Naming.IsLabelled.trim_eq hDomain.1
  have hBareHost : bare (some host) = host := Naming.IsLabelled.trim_eq hHost.1
  have hRules := rules_of_validate h
  simp only [rules, List.forall_mem_cons, List.forall_mem_append] at hRules
  obtain ⟨hEngine, hScope, -, hDatabase, hWeb⟩ := hRules
  -- Only the rules for the two names read what has been exchanged.
  obtain ⟨settings', hValid⟩ : ∃ settings', (d.under host domain).validate = .ok settings' := by
    refine judges_validate.ok_iff.mpr ?_
    simp only [rules, List.forall_mem_cons, List.forall_mem_append]
    refine ⟨hEngine, hScope, ?_, hDatabase, hWeb⟩
    simp only [dnsRules, under, List.forall_mem_cons, hBareDomain, hBareHost]
    exact ⟨hDomain, .inr hHost, by simp⟩
  have hMeans := means_of_validate hValid
  have hDomain' : settings'.dns.domain = domain := hMeans.domain.trans hBareDomain
  have hRoot' : settings'.dns.root = settings.dns.root :=
    hMeans.root.trans (means_of_validate h).root.symm
  have hHost' : settings'.dns.host = some host := by
    have hText : host ≠ "" := by
      rintro rfl
      revert hHost
      rw [← Naming.isDnsName_iff]
      decide
    rw [hMeans.host, trimmed?_eq, under, hBareHost, if_neg hText]
  exact ⟨settings', hValid, by rw [← hDomain', ← hHost', ← hRoot']⟩

/-- A domain that is no domain name is refused. -/
theorem validate_under_ne_ok {d : Document} {host domain : String}
    (hTrim : Text.trim domain = domain) (hDomain : ¬ Naming.IsDnsName 2 domain)
    (settings : Settings) : (d.under host domain).validate ≠ .ok settings := by
  intro hValid
  have hNamed := (dnsNames_of_validate hValid).1
  rw [(means_of_validate hValid).domain] at hNamed
  exact hDomain (hTrim ▸ hNamed)

end Document

namespace Deployment

/-- The names under which a site is served have good labels, and at least two of them, but may be
too long. A name keeps the rule that the domain has to keep exactly if it has 253 characters at
most, so all names do if this is true of the host and the domain with a dot between them. -/
theorem hostNames_of_accepted {d : Document} {settings : Settings}
    (h : d.validate = .ok settings) (hWanted : settings.dns.wantsCertificate = true) :
    ∃ deployment domains, assemble settings = .ok deployment ∧
      DomainList.ofDns settings.dns = .ok domains ∧
      (∀ name, name ∈ deployment.assembly.hostNames ↔ name ∈ domains.toList) ∧
      (∀ name ∈ domains.toList, Naming.IsLabelled 2 name ∧
        ∀ field, Naming.checkDnsName field 2 name = .ok () ↔ name.length ≤ 253) ∧
      ((∀ name ∈ domains.toList, ∀ field, Naming.checkDnsName field 2 name = .ok ()) ↔
        ∀ host ∈ settings.dns.host, host.length + settings.dns.domain.length ≤ 252) := by
  have hBounded := Document.bounded_of_validate h
  obtain ⟨tiers, hTiers, hMade⟩ := Tiers.ofSettings_eq_ok hBounded
  have hCreated := Tiers.createdFor_of_ofSettings hTiers
  obtain ⟨⟨hDomain, hShort⟩, hHost⟩ := Document.dnsNames_of_validate h
  rcases hCreated.cert_of_settings with ⟨hNone, -⟩ | ⟨-, domains, hDomains, hCert⟩
  · rw [hWanted] at hNone
    cases hNone
  · have hServed := hCreated.servesUnder hBounded.admissible hDomains hCert
    have hLabelled : ∀ name ∈ domains.toList, Naming.IsLabelled 2 name := fun name =>
      DomainList.isLabelled_of_mem hDomains hDomain fun host hSome => (hHost host hSome).1
    have hChecked : ∀ name ∈ domains.toList, ∀ field,
        Naming.checkDnsName field 2 name = .ok () ↔ name.length ≤ 253 := by
      intro name hMem field
      rw [Naming.checkDnsName_eq_ok_iff, Naming.isDnsName_iff_isLabelled]
      exact and_iff_right (hLabelled name hMem)
    refine ⟨ofTiers settings tiers, domains, assemble_eq_ok hTiers hMade, hDomains,
      fun name => hServed.mem_hostNames_iff, fun name hMem => ⟨hLabelled name hMem,
        hChecked name hMem⟩, ?_⟩
    rw [← DomainList.forall_length_iff hDomains hShort]
    refine forall₂_congr fun name hMem => ?_
    simp only [hChecked name hMem, forall_const]

theorem hostNames_siteDocument :
    siteDocument.validate = .ok siteSettings ∧ siteSettings.dns.wantsCertificate = true ∧
      ∃ deployment, assemble siteSettings = .ok deployment ∧
        "www.example.com" ∈ deployment.assembly.hostNames ∧
        ∀ name ∈ deployment.assembly.hostNames, Naming.checkDnsName "name" 2 name = .ok () := by
  have hValid : siteDocument.validate = .ok siteSettings := by decide +kernel
  obtain ⟨deployment, domains, hAssembled, hDomains, hNames, -, hAll⟩ :=
    hostNames_of_accepted hValid rfl
  refine ⟨hValid, rfl, deployment, hAssembled, ?_, fun name hMem => ?_⟩
  · rw [hNames, DomainList.mem_toList_cases hDomains]
    exact .inr ⟨"www", rfl, by decide⟩
  · refine hAll.mpr (fun host hSome => ?_) name ((hNames name).mp hMem) "name"
    cases hSome
    decide

/-- Sixty-three times the same letter, as many as a label may have. -/
def longLabel : String := String.ofList (List.replicate 63 'a')

/-- Three such labels under a domain of the highest level. -/
def longDomain : String := longLabel ++ "." ++ (longLabel ++ "." ++ (longLabel ++ "." ++ "com"))

theorem length_longLabel : longLabel.length = 63 :=
  String.length_ofList.trans List.length_replicate

theorem isLabelled_longLabel : Naming.IsLabelled 1 longLabel :=
  .of_isDnsLabel (.replicate (by decide) (by decide) (by decide))

theorem isDnsName_longLabel : Naming.IsDnsName 1 longLabel :=
  ⟨isLabelled_longLabel, by simp only [length_longLabel, Nat.reduceLeDiff]⟩

theorem length_longDomain : longDomain.length = 195 := by
  simp only [longDomain, String.length_append, length_longLabel]
  decide

theorem isDnsName_longDomain : Naming.IsDnsName 2 longDomain := by
  have hCom : Naming.IsLabelled 1 "com" := (Naming.isDnsName_iff.mp (by decide)).1
  have hAll := isLabelled_longLabel.append
    (isLabelled_longLabel.append (isLabelled_longLabel.append hCom))
  exact ⟨hAll.mono (by decide), by simp only [length_longDomain, Nat.reduceLeDiff]⟩

/-- A document with a long host under a long domain is accepted, and the site is served under a name
that would be refused as a domain. -/
theorem served_too_long :
    (∃ settings domains, (siteDocument.under longLabel longDomain).validate = .ok settings ∧
      settings.dns.wantsCertificate = true ∧ DomainList.ofDns settings.dns = .ok domains ∧
      longLabel ++ "." ++ longDomain ∈ domains.toList) ∧
    (∀ field, Naming.checkDnsName field 2 (longLabel ++ "." ++ longDomain) ≠ .ok ()) ∧
    ∀ settings,
      (siteDocument.under "www" (longLabel ++ "." ++ longDomain)).validate ≠ .ok settings := by
  have hSite : siteDocument.validate = .ok siteSettings := by decide +kernel
  have hLong : ¬ Naming.IsDnsName 2 (longLabel ++ "." ++ longDomain) := by
    rintro ⟨-, hLength⟩
    simp only [String.length_append, length_longLabel, length_longDomain] at hLength
    revert hLength
    decide
  obtain ⟨settings, hValid, hDns⟩ :=
    Document.validate_under hSite isDnsName_longLabel isDnsName_longDomain
  have hDomains : DomainList.ofDns settings.dns =
      .ok ⟨longLabel ++ "." ++ longDomain, some longDomain⟩ := by
    rw [hDns]
    rfl
  refine ⟨⟨settings, _, hValid, ?_, hDomains, List.mem_cons_self⟩, fun field hChecked => ?_,
    fun settings' hValid' => ?_⟩
  · rw [hDns]
    rfl
  · exact hLong (Naming.checkDnsName_eq_ok_iff.mp hChecked)
  · exact Document.validate_under_ne_ok
      (isLabelled_longLabel.append isDnsName_longDomain.1).trim_eq hLong settings' hValid'

end Deployment

end Blueprint

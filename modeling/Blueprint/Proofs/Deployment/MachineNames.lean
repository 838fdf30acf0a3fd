import Blueprint.Proofs.Deployment.Wiring
import Blueprint.Proofs.Settings.Bounds
import Blueprint.Proofs.Tier.Cluster

/-! The rule for the name of a database and the identifiers of its machines. The name is checked by
itself, and the number of a machine is written behind it afterwards. Digits may stand there, so the
form stays good; but a name may have all the characters that an identifier can have, and then there
is no room left for a number. -/

namespace Blueprint

namespace Naming

theorem checkIdentifier_eq_ok_iff {field name : String} {extra : Char}
    (hExtra : extra.utf8Size = 1) :
    checkIdentifier field extra name = .ok () ↔ IsIdentifier extra name := by
  unfold checkIdentifier
  split
  next hName => exact iff_of_true rfl ((isIdentifier_iff hExtra).mp hName)
  next hName => exact iff_of_false (fun h => by cases h) (mt (isIdentifier_iff hExtra).mpr hName)

/-- How a text begins does not depend on what is written behind it. -/
theorem BeginsWithLetter.append {allowed : Char → Prop} {name added : String}
    (h : BeginsWithLetter allowed name) (hAdded : ∀ c ∈ added.toList, allowed c) :
    BeginsWithLetter allowed (name ++ added) := by
  obtain ⟨first, rest, hName, hFirst, hRest⟩ := h
  refine ⟨first, rest ++ added.toList, ?_, hFirst, List.forall_mem_append.mpr ⟨hRest, hAdded⟩⟩
  rw [String.toList_append, hName, List.cons_append]

end Naming

namespace Document

variable {d : Document} {settings : Settings}

/-- A document with another name for its database and another number of machines. -/
def named (d : Document) (name : String) (machines : Int) : Document :=
  { d with dbName := some name, dbReplicaInstances := some machines }

/-- The exchanged name is checked as any other. -/
theorem isIdentifier_of_validate_named {name : String} {machines : Int}
    (h : (d.named name machines).validate = .ok settings) : Naming.IsIdentifier '-' name := by
  have hName := isIdentifier_of_validate h
  rwa [(means_of_validate h).name] at hName

end Document

namespace Data

variable {settings : DatabaseSettings}

theorem mem_identifiers_iff {identifier : String} :
    identifier ∈ identifiers settings ↔
      ∃ n, 1 ≤ n ∧ n ≤ settings.replicas ∧ instanceIdentifier settings n = identifier := by
  simp only [identifiers, List.mem_map, List.mem_range]
  constructor
  · rintro ⟨_, ⟨index, hIndex, rfl⟩, rfl⟩
    exact ⟨index + 1, Nat.succ_pos _, hIndex, rfl⟩
  · rintro ⟨n, hSome, hMost, rfl⟩
    exact ⟨n, ⟨n - 1, by omega, by omega⟩, rfl⟩

/-- The identifiers of the machines are made from the settings alone. -/
theorem identifiers_of_create (scope : Scope) (settings : DatabaseSettings)
    (network : NetworkHandle) (hReplicas : settings.replicas ≤ Bounds.nat32) :
    ∃ tier, create scope settings network = .ok tier ∧
      (machines tier.topology).map (fun machine => machine.2.identifier) =
        identifiers settings := by
  obtain ⟨instances, hCreate, hAre⟩ := create_eq_declared hReplicas
  exact ⟨_, hCreate, identifiers_declared hAre⟩

theorem length_instanceIdentifier (settings : DatabaseSettings) (n : Nat) :
    (instanceIdentifier settings n).length = settings.name.length + (toString n).length :=
  String.length_append _ _

/-- A number behind the name keeps the form of an identifier. -/
theorem beginsWithLetter_instanceIdentifier (hName : Naming.IsIdentifier '-' settings.name)
    (n : Nat) :
    Naming.BeginsWithLetter (fun c => Text.isAlnum c ∨ c = '-') (instanceIdentifier settings n) :=
  hName.1.append fun c hMem => .inl (List.all_eq_true.mp (isAlnum_toString n) c hMem)

/-- So it is the length alone that decides. -/
theorem checkIdentifier_instanceIdentifier_iff (hName : Naming.IsIdentifier '-' settings.name)
    (n : Nat) (field : String) :
    Naming.checkIdentifier field '-' (instanceIdentifier settings n) = .ok () ↔
      (instanceIdentifier settings n).length ≤ 63 := by
  rw [Naming.checkIdentifier_eq_ok_iff (by decide)]
  exact and_iff_right (beginsWithLetter_instanceIdentifier hName n)

/-- If there is room for the greatest number, there is room for all of them. -/
theorem forall_length_identifiers_iff (hSome : 1 ≤ settings.replicas) :
    (∀ identifier ∈ identifiers settings, identifier.length ≤ 63) ↔
      settings.name.length + (toString settings.replicas).length ≤ 63 := by
  constructor
  · intro hShort
    rw [← length_instanceIdentifier]
    exact hShort _ (mem_identifiers_iff.mpr ⟨_, hSome, Nat.le_refl _, rfl⟩)
  · intro hRoom identifier hMem
    obtain ⟨n, -, hMost, rfl⟩ := mem_identifiers_iff.mp hMem
    have hDigits := length_toString_mono hMost
    rw [length_instanceIdentifier]
    omega

end Data

namespace Deployment

/-- The machines of an accepted database are identified by its name and their numbers. Their
identifiers begin as the name has to and hold nothing that it may not hold, but they may be too
long. One keeps the rule for the name exactly if it has 63 characters at most, so all of them do if
the name leaves room for the greatest number. A name of 53 characters does so for any number of
machines. -/
theorem machineNames_of_accepted {d : Document} {settings : Settings}
    (h : d.validate = .ok settings) (scope : Scope) (network : NetworkHandle) :
    ∃ tier, Data.create scope settings.database network = .ok tier ∧
      (Data.machines tier.topology).map (fun machine => machine.2.identifier) =
        (List.range settings.database.replicas).map (fun i =>
          settings.database.name ++ toString (i + 1)) ∧
      (∀ machine ∈ Data.machines tier.topology,
        Naming.BeginsWithLetter (fun c => Text.isAlnum c ∨ c = '-') machine.2.identifier ∧
        ∀ field, Naming.checkIdentifier field '-' machine.2.identifier = .ok () ↔
          machine.2.identifier.length ≤ 63) ∧
      ((∀ machine ∈ Data.machines tier.topology, ∀ field,
          Naming.checkIdentifier field '-' machine.2.identifier = .ok ()) ↔
        settings.database.name.length + (toString settings.database.replicas).length ≤ 63) ∧
      (settings.database.name.length ≤ 53 → ∀ machine ∈ Data.machines tier.topology, ∀ field,
        Naming.checkIdentifier field '-' machine.2.identifier = .ok ()) := by
  have hName := Document.isIdentifier_of_validate h
  obtain ⟨hSome, hMost⟩ := (Document.bounded_of_validate h).replicas
  obtain ⟨tier, hCreate, hIdentifiers⟩ :=
    Data.identifiers_of_create scope settings.database network hMost
  have hMem : ∀ machine ∈ Data.machines tier.topology,
      machine.2.identifier ∈ Data.identifiers settings.database := by
    intro machine hMachine
    rw [← hIdentifiers]
    exact List.mem_map_of_mem hMachine
  have hEach : ∀ identifier ∈ Data.identifiers settings.database,
      Naming.BeginsWithLetter (fun c => Text.isAlnum c ∨ c = '-') identifier ∧
        ∀ field, Naming.checkIdentifier field '-' identifier = .ok () ↔
          identifier.length ≤ 63 := by
    intro identifier hIdentifier
    obtain ⟨n, -, -, rfl⟩ := Data.mem_identifiers_iff.mp hIdentifier
    exact ⟨Data.beginsWithLetter_instanceIdentifier hName n,
      Data.checkIdentifier_instanceIdentifier_iff hName n⟩
  have hAll : (∀ machine ∈ Data.machines tier.topology, ∀ field,
        Naming.checkIdentifier field '-' machine.2.identifier = .ok ()) ↔
      settings.database.name.length + (toString settings.database.replicas).length ≤ 63 := by
    rw [← Data.forall_length_identifiers_iff hSome, ← hIdentifiers, List.forall_mem_map]
    refine forall₂_congr fun machine hMachine => ?_
    simp only [(hEach _ (hMem machine hMachine)).2, forall_const]
  refine ⟨tier, hCreate, ?_, fun machine hMachine => hEach _ (hMem machine hMachine), hAll,
    fun hRoom => hAll.mpr ?_⟩
  · rw [hIdentifiers, Data.identifiers, List.map_map]
    rfl
  · have hDigits := length_toString_le hMost
    rw [String.length_toList] at hDigits
    omega

/-- The settings of the site with another name for its database and another number of machines. -/
def namedSettings (name : String) (machines : Nat) : Settings :=
  { siteSettings with
    database := { siteSettings.database with name, replicas := machines } }

/-- The same letter, so many times. -/
def repeatedLetter (n : Nat) : String := String.ofList (List.replicate n 'a')

/-- One character is room enough for the numbers of nine machines. -/
theorem machineNames_of_accepted_nine :
    (siteDocument.named (repeatedLetter 62) 9).validate =
        .ok (namedSettings (repeatedLetter 62) 9) ∧
      ∃ tier, Data.create siteSettings.scope (namedSettings (repeatedLetter 62) 9).database
          Data.quietNetwork = .ok tier ∧
        (Data.machines tier.topology).length = 9 ∧
        ∀ machine ∈ Data.machines tier.topology, ∀ field,
          Naming.checkIdentifier field '-' machine.2.identifier = .ok () := by
  have hValid : (siteDocument.named (repeatedLetter 62) 9).validate =
      .ok (namedSettings (repeatedLetter 62) 9) := by decide +kernel
  obtain ⟨tier, hCreate, hIdentifiers, -, hAll, -⟩ :=
    machineNames_of_accepted hValid siteSettings.scope Data.quietNetwork
  refine ⟨hValid, tier, hCreate, ?_, hAll.mpr (by decide +kernel)⟩
  have hCount := congrArg List.length hIdentifiers
  rwa [List.length_map, List.length_map, List.length_range] at hCount

/-- A name with all the characters that an identifier can have is accepted, and its machine gets an
identifier that would be refused as a name. -/
theorem machine_named_too_long :
    (siteDocument.named (repeatedLetter 63) 1).validate =
        .ok (namedSettings (repeatedLetter 63) 1) ∧
      (∀ scope network, ∃ tier,
        Data.create scope (namedSettings (repeatedLetter 63) 1).database network = .ok tier ∧
          ∃ machine ∈ Data.machines tier.topology,
            machine.2.identifier = repeatedLetter 63 ++ "1" ∧
              ∀ field, Naming.checkIdentifier field '-' machine.2.identifier ≠ .ok ()) ∧
      ∀ settings, (siteDocument.named (repeatedLetter 63 ++ "1") 1).validate ≠ .ok settings := by
  have hValid : (siteDocument.named (repeatedLetter 63) 1).validate =
      .ok (namedSettings (repeatedLetter 63) 1) := by decide +kernel
  have hLong : ¬ Naming.IsIdentifier '-' (repeatedLetter 63 ++ "1") := by
    rw [← Naming.isIdentifier_iff (by decide)]
    decide +kernel
  refine ⟨hValid, fun scope network => ?_, fun settings hRefused => ?_⟩
  · obtain ⟨tier, hCreate, hIdentifiers⟩ := Data.identifiers_of_create scope
      (namedSettings (repeatedLetter 63) 1).database network (by decide)
    have hFirst : repeatedLetter 63 ++ "1" ∈
        (Data.machines tier.topology).map fun machine => machine.2.identifier := by
      rw [hIdentifiers]
      exact Data.mem_identifiers_iff.mpr ⟨1, Nat.le_refl _, Nat.le_refl _, rfl⟩
    obtain ⟨machine, hMachine, hIdentifier⟩ := List.mem_map.mp hFirst
    refine ⟨tier, hCreate, machine, hMachine, hIdentifier, fun field hChecked => hLong ?_⟩
    rw [← hIdentifier]
    exact (Naming.checkIdentifier_eq_ok_iff (by decide)).mp hChecked
  · exact hLong (Document.isIdentifier_of_validate_named hRefused)

end Deployment

end Blueprint

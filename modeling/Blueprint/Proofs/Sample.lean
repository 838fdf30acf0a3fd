import Blueprint.Command.Init
import Blueprint.Proofs.Json.Reader
import Blueprint.Proofs.Settings.Rules

/-! The sample document with another prefix. The prefix is put into the text of the document as it
stands, so the document is the one that is meant only where a string literal would not write the
prefix in another way. -/

namespace Blueprint.Sample

open Json

/-- A text is the sample with nothing but its prefix replaced: read as settings it says the same as
the sample under all other keys, and it has no key that the sample does not have. -/
structure Keeps (namePrefix text : String) : Prop where
  settings : ∃ sample, Format.json.parse (document "Acme") = .ok sample ∧
    Format.json.parse text = .ok { sample with namePrefix := some namePrefix }
  keys : ∃ members original, Json.parse? text = some (.obj members) ∧
    Json.parse? (document "Acme") = some (.obj original) ∧
    ∀ member ∈ members, member.1 ∈ original.map Prod.fst

/-! ### Reading the sample -/

/-- The members of the sample with a text under the key of the prefix. -/
def members (namePrefix : String) : List (String × Json) :=
  [("namePrefix", .str namePrefix), ("region", .str "us-east-1"), ("maxAzs", .int 3),
    ("dnsDomain", .str "example.com"), ("dnsDomainHost", .str "www"),
    ("dnsDomainEnableRoot", .bool true), ("dbEngine", .str "postgresql"),
    ("dbName", .str "acme"), ("dbUsername", .str "dbadmin"),
    ("dbInstanceType", .str "t4g.medium"), ("dbReplicaInstances", .int 1),
    ("dbBackupWindow", .str "03:00-04:00"), ("dbBackupRetentionDays", .int 14),
    ("dbPreferredMaintenanceWindow", .str "sun:05:00-sun:06:00"), ("dbIngressSources", .arr []),
    ("dbEnableBabelfish", .bool false), ("sesEmailEnabled", .bool false), ("fargateCpu", .int 256),
    ("fargateMemoryLimit", .int 512), ("fargateInstances", .int 1),
    ("ecrRepositoryTag", .str "latest")]

/-- All lines but the first one are the same for every prefix. -/
theorem isLine_tail (namePrefix : String) :
    List.Forall₂ IsLine (entries namePrefix).tail (members namePrefix).tail := by
  have hThree : Reads ['3'] (.int 3) := by rintro fuel c rest (rfl | rfl) <;> rfl
  have hTrue : Reads ['t', 'r', 'u', 'e'] (.bool true) := by
    rintro fuel c rest (rfl | rfl) <;> rfl
  have hOne : Reads ['1'] (.int 1) := by rintro fuel c rest (rfl | rfl) <;> rfl
  have hFourteen : Reads ['1', '4'] (.int 14) := by rintro fuel c rest (rfl | rfl) <;> rfl
  have hNone : Reads ['[', ']'] (.arr []) := by rintro fuel c rest (rfl | rfl) <;> rfl
  have hFalse : Reads ['f', 'a', 'l', 's', 'e'] (.bool false) := by
    rintro fuel c rest (rfl | rfl) <;> rfl
  have hCpu : Reads ['2', '5', '6'] (.int 256) := by rintro fuel c rest (rfl | rfl) <;> rfl
  have hMemory : Reads ['5', '1', '2'] (.int 512) := by rintro fuel c rest (rfl | rfl) <;> rfl
  exact .cons (isLine_str (by decide) (by decide) (by decide)) <|
    .cons ⟨_, by decide, by decide, hThree⟩ <|
    .cons (isLine_str (by decide) (by decide) (by decide)) <|
    .cons (isLine_str (by decide) (by decide) (by decide)) <|
    .cons ⟨_, by decide, by decide, hTrue⟩ <|
    .cons (isLine_str (by decide) (by decide) (by decide)) <|
    .cons (isLine_str (by decide) (by decide) (by decide)) <|
    .cons (isLine_str (by decide) (by decide) (by decide)) <|
    .cons (isLine_str (by decide) (by decide) (by decide)) <|
    .cons ⟨_, by decide, by decide, hOne⟩ <|
    .cons (isLine_str (by decide) (by decide) (by decide)) <|
    .cons ⟨_, by decide, by decide, hFourteen⟩ <|
    .cons (isLine_str (by decide) (by decide) (by decide)) <|
    .cons ⟨_, by decide, by decide, hNone⟩ <|
    .cons ⟨_, by decide, by decide, hFalse⟩ <|
    .cons ⟨_, by decide, by decide, hFalse⟩ <|
    .cons ⟨_, by decide, by decide, hCpu⟩ <|
    .cons ⟨_, by decide, by decide, hMemory⟩ <|
    .cons ⟨_, by decide, by decide, hOne⟩ <|
    .cons (isLine_str (by decide) (by decide) (by decide)) <|
    .nil

theorem toList_firstLine (namePrefix : String) :
    ("\"namePrefix\": \"" ++ namePrefix ++ "\"").toList =
      '"' :: ("namePrefix".toList ++ '"' :: ':' :: ' ' :: '"' :: (namePrefix.toList ++ ['"'])) := by
  have hKey : "\"namePrefix\": \"" = "\"" ++ "namePrefix" ++ "\": \"" := by decide
  rw [hKey, toList_strLine]

theorem isLine_firstLine {namePrefix : String} (h : IsVerbatim namePrefix.toList) :
    IsLine ("\"namePrefix\": \"" ++ namePrefix ++ "\"") ("namePrefix", .str namePrefix) :=
  isLine_str (by decide) h (toList_firstLine namePrefix)

theorem areMembers_entries {namePrefix : String} (h : IsVerbatim namePrefix.toList) :
    AreMembers (String.intercalate ",\n  " (entries namePrefix)).toList (members namePrefix) :=
  .intercalate (.cons (isLine_firstLine h) (isLine_tail namePrefix)) (List.cons_ne_nil _ _)

theorem toList_entries (namePrefix : String) :
    (String.intercalate ",\n  " (entries namePrefix)).toList =
      ("\"namePrefix\": \"" ++ namePrefix ++ "\"").toList ++ ',' :: (['\n', ' ', ' '] ++
        (String.intercalate ",\n  " (entries namePrefix).tail).toList) := by
  have hComma : ",\n  ".toList = [',', '\n', ' ', ' '] := by decide
  have hEntries : entries namePrefix =
      ("\"namePrefix\": \"" ++ namePrefix ++ "\"") :: (entries namePrefix).tail := rfl
  have hTail : (entries namePrefix).tail ≠ [] := List.cons_ne_nil _ _
  rw [hEntries, String.intercalate_cons_of_ne_nil hTail, List.tail_cons]
  simp only [String.toList_append, hComma, List.append_assoc, List.cons_append, List.nil_append]

theorem toList_document (namePrefix : String) :
    (document namePrefix).toList = '\x7b' :: '\n' :: ' ' :: ' ' ::
      ((String.intercalate ",\n  " (entries namePrefix)).toList ++ ['\n', '\x7d', '\n']) := by
  have hOpening : "\x7b\n  ".toList = ['\x7b', '\n', ' ', ' '] := by decide
  have hClosing : "\n\x7d\n".toList = ['\n', '\x7d', '\n'] := by decide
  rw [document, String.toList_append, String.toList_append, hOpening, hClosing]
  rfl

/-- A prefix without escapes is read as it is, unless it has a control character. -/
theorem parse?_document {namePrefix : String} (h : IsUnescaped namePrefix.toList) :
    Json.parse? (document namePrefix) =
      if IsVerbatim namePrefix.toList then some (.obj (members namePrefix)) else none := by
  rw [Json.parse?, toList_document]
  by_cases hControl : IsVerbatim namePrefix.toList
  · rw [if_pos hControl]
    exact ofChars?_members (areMembers_entries hControl)
  · have hKey : IsVerbatim "namePrefix".toList := by decide
    have hText (rest : List Char) :
        '"' :: ("namePrefix".toList ++ '"' :: ':' :: ' ' :: '"' :: (namePrefix.toList ++ ['"'])) ++
            rest ++ ['\n', '\x7d', '\n'] =
          '"' :: ("namePrefix".toList ++ '"' :: ':' :: ' ' :: '"' ::
            (namePrefix.toList ++ '"' :: (rest ++ ['\n', '\x7d', '\n']))) := by
      simp only [List.cons_append, List.append_assoc, List.nil_append]
    rw [if_neg hControl, toList_entries, toList_firstLine, hText]
    exact ofChars?_eq_none hKey h hControl

/-- A prefix that closes the quotation mark adds a member. -/
theorem parse?_document_spliced {first key second : String} (hFirst : IsVerbatim first.toList)
    (hKey : IsVerbatim key.toList) (hSecond : IsVerbatim second.toList) :
    Json.parse? (document (first ++ "\", \"" ++ key ++ "\": \"" ++ second)) =
      some (.obj (("namePrefix", .str first) :: (key, .str second) :: (members first).tail)) := by
  have hLine := isLine_str hKey hSecond (toList_strLine key second)
  have hOthers := AreMembers.intercalate (isLine_tail first) (List.cons_ne_nil _ _)
  have hAll := AreMembers.more [' '] rfl (isLine_firstLine hFirst)
    (.more ['\n', ' ', ' '] rfl hLine hOthers)
  have hComma : "\", \"".toList = "\"".toList ++ ',' :: ' ' :: "\"".toList := by decide
  have hText (others : List Char) :
      ("\"namePrefix\": \"" ++ (first ++ "\", \"" ++ key ++ "\": \"" ++ second) ++ "\"").toList ++
          others =
        ("\"namePrefix\": \"" ++ first ++ "\"").toList ++ ',' :: ([' '] ++
          (("\"" ++ key ++ "\": \"" ++ second ++ "\"").toList ++ others)) := by
    simp only [String.toList_append, List.append_assoc, hComma, List.cons_append, List.nil_append]
  rw [Json.parse?, toList_document, toList_entries, hText]
  exact ofChars?_members hAll

/-- What the sample says, with a text as the prefix. -/
def settings (namePrefix : String) : Document where
  namePrefix := some namePrefix
  region := some "us-east-1"
  maxAzs := some 3
  dnsDomain := some "example.com"
  dnsDomainHost := some "www"
  dnsDomainEnableRoot := some true
  dbEngine := some "postgresql"
  dbName := some "acme"
  dbUsername := some "dbadmin"
  dbInstanceType := some "t4g.medium"
  dbReplicaInstances := some 1
  dbBackupWindow := some "03:00-04:00"
  dbBackupRetentionDays := some 14
  dbPreferredMaintenanceWindow := some "sun:05:00-sun:06:00"
  dbIngressSources := some []
  dbEnableBabelfish := some false
  sesEmailEnabled := some false
  fargateCpu := some 256
  fargateMemoryLimit := some 512
  fargateInstances := some 1
  ecrRepositoryTag := some "latest"

theorem ofJson?_members (namePrefix : String) :
    Document.ofJson? (.obj (members namePrefix)) = some (settings namePrefix) := by
  rfl

theorem parse_document {namePrefix : String} (h : IsVerbatim namePrefix.toList) :
    Format.json.parse (document namePrefix) = .ok (settings namePrefix) := by
  rw [Format.parse, Format.document?, parse?_document h.unescaped, if_pos h,
    Option.bind_some, ofJson?_members]

theorem keeps_document {namePrefix : String} (h : IsVerbatim namePrefix.toList) :
    Keeps namePrefix (document namePrefix) := by
  have hSample : IsVerbatim "Acme".toList := by decide
  have hKeys : (members namePrefix).map Prod.fst = (members "Acme").map Prod.fst := rfl
  refine ⟨⟨_, parse_document hSample, parse_document h⟩, members namePrefix, members "Acme", ?_, ?_,
    fun member hMem => hKeys ▸ List.mem_map_of_mem hMem⟩
  · rw [parse?_document h.unescaped, if_pos h]
  · rw [parse?_document hSample.unescaped, if_pos hSample]

/-! ### Accepting the sample -/

/-- Of the rules for the sample, only the one for the prefix depends on it. -/
theorem validate_settings {namePrefix : String} :
    (∃ s, (settings namePrefix).validate = .ok s) ↔
      Naming.BeginsWithLetter (fun c => Text.isAlnum c) (Text.trim namePrefix) := by
  have hValid : (settings "Acme").validate.toBool = true := by decide +kernel
  obtain ⟨s, hSample⟩ : ∃ s, (settings "Acme").validate = .ok s := by
    cases hResult : (settings "Acme").validate with
    | ok s => exact ⟨s, rfl⟩
    | error e =>
        rw [hResult] at hValid
        cases hValid
  have hRules := Document.rules_of_validate hSample
  rw [Document.judges_validate.ok_iff]
  simp only [Document.rules, Document.scopeRules, Document.databaseRules, settings,
    Option.getD_some, List.forall_mem_append, List.forall_mem_cons] at hRules ⊢
  obtain ⟨hEngine, ⟨-, hScope⟩, hOthers⟩ := hRules
  exact ⟨fun h => h.2.1.1, fun h => ⟨hEngine, ⟨h, hScope⟩, hOthers⟩⟩

/-- The text that is written is the document with the prefix put in, as long as it can be read and
is valid. -/
theorem render_eq_ok_iff {namePrefix text : String} :
    render .json namePrefix = .ok text ↔
      text = document namePrefix ∧
        ∃ d, Format.json.parse (document namePrefix) = .ok d ∧ ∃ s, d.validate = .ok s := by
  unfold render
  dsimp only
  cases hParsed : Format.json.parse (document namePrefix) with
  | error e =>
      refine iff_of_false nofun ?_
      rintro ⟨-, d, hOk, -⟩
      cases hOk
  | ok d =>
      cases hValid : d.validate with
      | error e =>
          refine iff_of_false (by simp only [hValid]; nofun) ?_
          rintro ⟨-, d', hOk, s, hOk'⟩
          cases hOk
          rw [hValid] at hOk'
          cases hOk'
      | ok s =>
          simp only [hValid]
          constructor
          · intro h
            cases h
            exact ⟨rfl, d, rfl, s, hValid⟩
          · rintro ⟨rfl, -⟩
            rfl

theorem render_document_iff {namePrefix : String} (h : IsUnescaped namePrefix.toList) :
    (∃ text, render .json namePrefix = .ok text) ↔
      (∀ c ∈ namePrefix.toList, 32 ≤ c.toNat) ∧
        Naming.BeginsWithLetter (fun c => Text.isAlnum c) (Text.trim namePrefix) := by
  simp only [render_eq_ok_iff, exists_eq_left]
  by_cases hControl : ∀ c ∈ namePrefix.toList, 32 ≤ c.toNat
  · rw [parse_document ⟨h, hControl⟩, ← validate_settings]
    constructor
    · rintro ⟨d, hParsed, hValid⟩
      cases hParsed
      exact ⟨hControl, hValid⟩
    · exact fun hBoth => ⟨_, rfl, hBoth.2⟩
  · have hUnread := parse?_document h
    rw [if_neg (mt IsVerbatim.printable hControl)] at hUnread
    refine iff_of_false ?_ fun hBoth => hControl hBoth.1
    rintro ⟨d, hParsed, -⟩
    rw [Format.parse, Format.document?, hUnread] at hParsed
    cases hParsed

/-- A valid prefix has nothing to be escaped, not even among the blanks around it. -/
theorem isUnescaped_of_valid {namePrefix : String}
    (h : Naming.BeginsWithLetter (fun c => Text.isAlnum c) (Text.trim namePrefix)) :
    IsUnescaped namePrefix.toList := by
  obtain ⟨first, rest, hText, hFirst, hRest⟩ := h
  have hAlnum : ∀ c ∈ (Text.trim namePrefix).toList, Text.isAlnum c = true := by
    rw [hText]
    exact List.forall_mem_cons.mpr ⟨by rw [Text.isAlnum, hFirst]; rfl, hRest⟩
  have hChars : ∀ c ∈ namePrefix.toList, Text.isBlank c = true ∨ Text.isAlnum c = true :=
    fun c hMem => (Text.isBlank_or_mem_trim hMem).imp_right (hAlnum c)
  exact ⟨fun hQuote => absurd (hChars _ hQuote) (by decide),
    fun hSlash => absurd (hChars _ hSlash) (by decide)⟩

theorem keeps_iff {namePrefix text : String} (h : render .json namePrefix = .ok text) :
    Keeps namePrefix text ↔ IsUnescaped namePrefix.toList := by
  obtain ⟨rfl, d, hParsed, s, hValid⟩ := render_eq_ok_iff.mp h
  constructor
  · intro hKeeps
    obtain ⟨sample, -, hSame⟩ := hKeeps.settings
    rw [hParsed] at hSame
    cases hSame
    have hRules := Document.rules_of_validate hValid
    simp only [Document.rules, Document.scopeRules, List.forall_mem_cons,
      List.forall_mem_append] at hRules
    exact isUnescaped_of_valid hRules.2.1.1
  · intro hUnescaped
    exact keeps_document ⟨hUnescaped, ((render_document_iff hUnescaped).mp ⟨_, h⟩).1⟩

/-- Where the document is written as JSON, it is the sample with the prefix put in as it stands. It
is the sample with nothing but the prefix replaced exactly for the prefixes without quotation marks
and backslashes, and these are accepted exactly if they are good prefixes and have no control
characters. -/
theorem render_keeps_iff {path : String} (hFormat : Format.ofPath path = .json)
    (namePrefix : String) :
    (∀ text, render (.ofPath path) namePrefix = .ok text →
      text = document namePrefix ∧
        (Keeps namePrefix text ↔ '"' ∉ namePrefix.toList ∧ '\\' ∉ namePrefix.toList)) ∧
    ('"' ∉ namePrefix.toList → '\\' ∉ namePrefix.toList →
      ((∃ text, render (.ofPath path) namePrefix = .ok text) ↔
        (∀ c ∈ namePrefix.toList, 32 ≤ c.toNat) ∧
          Naming.BeginsWithLetter (fun c => Text.isAlnum c) (Text.trim namePrefix))) := by
  rw [hFormat]
  exact ⟨fun text h => ⟨(render_eq_ok_iff.mp h).1, keeps_iff h⟩,
    fun hQuote hSlash => render_document_iff ⟨hQuote, hSlash⟩⟩

theorem render_keeps_iff_shop :
    Format.ofPath "stack.config.json" = .json ∧
      ∃ text, render (.ofPath "stack.config.json") "Shop" = .ok text ∧ Keeps "Shop" text := by
  have hFormat : Format.ofPath "stack.config.json" = .json := by decide +kernel
  obtain ⟨hKept, hAccepted⟩ := render_keeps_iff hFormat "Shop"
  have hShop : IsVerbatim "Shop".toList := by decide
  have hLetter : Naming.BeginsWithLetter (fun c => Text.isAlnum c) (Text.trim "Shop") :=
    Naming.isDeploymentPrefix_iff.mp (by decide)
  obtain ⟨text, hText⟩ := (hAccepted hShop.unescaped.1 hShop.unescaped.2).mpr
    ⟨hShop.printable, hLetter⟩
  exact ⟨hFormat, text, hText, (hKept text hText).2.mpr hShop.unescaped⟩

/-- A prefix that brings a member with it is accepted and changes the sample. -/
theorem render_spliced :
    render (.ofPath "stack.config.json") "Acme\", \"team\": \"web" =
        .ok (document "Acme\", \"team\": \"web") ∧
      ¬Keeps "Acme\", \"team\": \"web" (document "Acme\", \"team\": \"web") := by
  have hFormat : Format.ofPath "stack.config.json" = .json := by decide +kernel
  have hSample : IsVerbatim "Acme".toList := by decide
  have hText : "Acme\", \"team\": \"web" = "Acme" ++ "\", \"" ++ "team" ++ "\": \"" ++ "web" := by
    decide
  have hTeam : IsVerbatim "team".toList := by decide
  have hWeb : IsVerbatim "web".toList := by decide
  have hRead := parse?_document_spliced hSample hTeam hWeb
  rw [← hText] at hRead
  have hParsed : Format.json.parse (document "Acme\", \"team\": \"web") =
      .ok (settings "Acme") := by
    rw [Format.parse, Format.document?, hRead]
    rfl
  have hLetter : Naming.BeginsWithLetter (fun c => Text.isAlnum c) (Text.trim "Acme") :=
    Naming.isDeploymentPrefix_iff.mp (by decide)
  constructor
  · rw [hFormat]
    exact render_eq_ok_iff.mpr ⟨rfl, _, hParsed, validate_settings.mpr hLetter⟩
  · intro hKeeps
    obtain ⟨all, original, hAll, hOriginal, hKeys⟩ := hKeeps.keys
    rw [hRead] at hAll
    rw [parse?_document hSample.unescaped, if_pos hSample] at hOriginal
    cases hAll
    cases hOriginal
    have hKnown := hKeys ("team", .str "web") (List.mem_cons_of_mem _ List.mem_cons_self)
    revert hKnown
    decide

end Blueprint.Sample

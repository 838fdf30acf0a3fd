import Blueprint.Proofs.Path.Containment
import Blueprint.Proofs.Synthesis.AllOrNothing
import Blueprint.Proofs.Topology.Validity

/-! What arrives when a checked set of files is written on a machine where nothing is in the way.
Writing succeeds, whatever the paths are. The check compares paths as they are written and the
machine compares where they lead, which is not the same for a path with a dot at its beginning. So a
file is lost exactly if its path stands in the set twice, once with such a dot and once without. -/

namespace Blueprint

open Blueprint.Path

/-! ### Where paths lead -/

/-- Where a path leads below a directory: its parts without the dot at the beginning. -/
def RelativePath.place (path : RelativePath) : List Part := path.parts.filter (· ≠ .here)

namespace RelativePath

variable {path other : RelativePath}

theorem place_eq_segments (path : RelativePath) : path.place = segments path.text.toList := by
  obtain ⟨-, hSlash, hUp⟩ := isRelativePath_iff.mp path.isRelativePath
  obtain ⟨names, hNames⟩ := exists_segments_eq hUp
  have hKept : (names.map Part.name).filter (· ≠ .here) = names.map .name :=
    List.filter_eq_self.mpr (by simp)
  rw [place, parts, Path.parts, partsOfChars_eq, List.filter_append, hNames, hKept]
  rcases opening_cases hSlash with hOpening | hOpening <;> rw [hOpening] <;> rfl

theorem parts_join {root : String} (hRoot : root ≠ "") (path : RelativePath) :
    Path.parts (join root path.text) = Path.parts root ++ path.place := by
  rw [Path.parts_join hRoot (isAbsolute_eq_false path), place_eq_segments]

theorem parts_eq_place_or (path : RelativePath) :
    path.parts = path.place ∨ path.parts = .here :: path.place := by
  obtain ⟨-, hSlash, -⟩ := isRelativePath_iff.mp path.isRelativePath
  rw [place_eq_segments, parts, Path.parts, partsOfChars_eq]
  rcases opening_cases hSlash with hOpening | hOpening <;> rw [hOpening]
  · exact .inl rfl
  · exact .inr rfl

/-- Two paths lead to the same place only if they are the same or one has a dot in front. -/
theorem place_eq_iff :
    path.place = other.place ↔
      path.parts = other.parts ∨ path.parts = .here :: other.parts ∨
        other.parts = .here :: path.parts := by
  constructor
  · intro h
    rcases path.parts_eq_place_or with hPath | hPath <;>
      rcases other.parts_eq_place_or with hOther | hOther <;> rw [hPath, hOther, h]
    · exact .inl rfl
    · exact .inr (.inr rfl)
    · exact .inr (.inl rfl)
    · exact .inl rfl
  · rw [place, place]
    rintro (h | h | h) <;> simp [h]

end RelativePath

/-! ### The check -/

namespace ArtifactSet

/-- Files are told apart by their paths, as resources are by their identifiers. -/
theorem map_firstRepeated? (seen : List (List Part)) (artifacts : List Artifact) :
    (firstRepeated? seen artifacts).map (fun artifact => artifact.path.parts) =
      Topology.firstRepeated? seen (artifacts.map fun artifact => artifact.path.parts) := by
  induction artifacts generalizing seen with
  | nil => rfl
  | cons first rest ih =>
      rw [firstRepeated?, List.map_cons, Topology.firstRepeated?]
      by_cases hSeen : first.path.parts ∈ seen
      · rw [if_pos hSeen, if_pos (List.elem_iff.mpr hSeen)]
        rfl
      · rw [if_neg hSeen, if_neg (mt List.elem_iff.mp hSeen), ih]

theorem validate_eq_ok_iff {set : ArtifactSet} :
    set.validate = .ok () ↔ (set.artifacts.map fun artifact => artifact.path.parts).Nodup := by
  have hFirst := map_firstRepeated? [] set.artifacts
  have hNodup (items : List (List Path.Part)) :
      Topology.firstRepeated? [] items = none ↔ items.Nodup := by
    simp [Topology.firstRepeated?_eq_none_iff]
  rw [← hNodup, ← hFirst, Option.map_eq_none_iff, validate]
  split
  next artifact hSome => simp [hSome]
  next hNone => simp [hNone]

/-- The places of checked files are different unless a path stands in the set with and without a dot
in front. -/
theorem nodup_places_iff {set : ArtifactSet} (hValid : set.validate = .ok ()) :
    (set.artifacts.map fun artifact => artifact.path.place).Nodup ↔
      ∀ a ∈ set.artifacts, ∀ b ∈ set.artifacts, a.path.parts ≠ .here :: b.path.parts := by
  have hParts := validate_eq_ok_iff.mp hValid
  constructor
  · intro hPlaces a ha b hb hDot
    have hSame := List.inj_on_of_nodup_map hPlaces ha hb
      (RelativePath.place_eq_iff.mpr (.inr (.inl hDot)))
    rw [hSame] at hDot
    simpa using congrArg List.length hDot
  · intro hDots
    rw [List.Nodup, List.pairwise_map] at hParts ⊢
    refine hParts.imp_of_mem fun ha hb hOther hPlace => ?_
    rcases RelativePath.place_eq_iff.mp hPlace with hSame | hDot | hDot
    · exact hOther hSame
    · exact hDots _ ha _ hb hDot
    · exact hDots _ hb _ ha hDot

/-- What belongs at the path of a file is the last file for the same place. -/
theorem contentAt?_join {root : String} (hRoot : root ≠ "") (set : ArtifactSet)
    (path : RelativePath) :
    set.contentAt? root (join root path.text) =
      (set.artifacts.reverse.find? fun artifact => artifact.path.place = path.place).map
        Artifact.content := by
  simp only [contentAt?, RelativePath.parts_join hRoot, List.append_right_inj]

theorem isSome_contentAt?_iff {set : ArtifactSet} {root path : String} (hRoot : root ≠ "") :
    (set.contentAt? root path).isSome ↔
      parts path ∈ set.artifacts.map fun artifact => parts root ++ artifact.path.place := by
  simp only [contentAt?, RelativePath.parts_join hRoot, Option.isSome_map, List.find?_isSome,
    List.mem_reverse, decide_eq_true_eq, List.mem_map]

end ArtifactSet

theorem Store.isSome_read?_iff {s : Store} {path : String} :
    (s.read? path).isSome ↔ parts path ∈ s.files.map StoredFile.parts := by
  simp only [read?, file?, Option.isSome_map, List.find?_isSome, decide_eq_true_eq, List.mem_map]

/-! ### Writing without faults -/

/-- A machine that lets every change through. -/
def Trial.Permits (trial : Trial) : Prop := ∀ asked c, trial.refusal asked c = none

namespace Synthesizer

variable {s : Synthesizer} {root : String} {trial : Trial}

/-- A change that the store can make is made. -/
theorem ensures_perform_of_permits (hPermits : trial.Permits) {c : Change} {store : Store}
    (hApply : trial.store.apply c = .ok store) :
    (s.perform c).Ensures (fun _ t => t.store = store ∧ t.Permits) (fun _ _ => False) trial := by
  refine ensures_perform (fun store' hApply' => ?_) fun fault e _ hCause => ?_
  · exact ⟨Except.ok.inj (hApply'.symm.trans hApply), hPermits⟩
  · rcases hCause with hRefusal | hFault
    · rw [hPermits] at hRefusal
      cases hRefusal
    · rw [hApply] at hFault
      cases hFault

/-- A file can be written anywhere, since its directory is made before. -/
theorem ensures_writeArtifact_of_permits (hPermits : trial.Permits) (artifact : Artifact) :
    (s.writeArtifact root artifact).Ensures (fun _ t => t.Permits) (fun _ _ => False) trial := by
  have hWrite (t : Trial) (ht : t.Permits)
      (hPlace : t.store.hasPlaceFor (parts (join root artifact.path.text)) = true) :
      Job.Ensures (fun _ t => t.Permits) (fun _ _ => False)
        (do
          noteStep .debug "Writing artifact" [("path", .bare (join root artifact.path.text))]
          s.perform (.write (join root artifact.path.text) artifact.content)) t := by
    rw [Job.ensures_bind, Job.ensures_lift, ensures_noteStep]
    intro event
    have hNoted : (t.record (.note event)).Permits := ht
    have hApply : (t.record (.note event)).store.apply
          (.write (join root artifact.path.text) artifact.content) = .ok _ :=
      Store.write_eq_ok_iff.mpr ⟨hPlace, rfl⟩
    exact (ensures_perform_of_permits hNoted hApply).mono (fun _ _ h => h.2) fun _ _ h => h
  unfold writeArtifact
  dsimp only
  cases hDirectory : directory? (join root artifact.path.text) with
  | none => exact hWrite trial hPermits (Store.hasPlaceFor_of_directory?_eq_none hDirectory)
  | some directory =>
      rw [Job.ensures_bind]
      refine (ensures_perform_of_permits hPermits (c := .makeDirs directory) rfl).mono
        (fun _ t h => ?_) fun _ _ h => h
      obtain ⟨hStore, ht⟩ := h
      exact hWrite t ht (hStore ▸ Store.hasPlaceFor_makeDirs hDirectory)

/-- Any files can be written one after the other. The induction is on the list, on any machine that
lets every change through. -/
theorem ensures_forM_writeArtifact_of_permits (hPermits : trial.Permits)
    (artifacts : List Artifact) :
    Job.Ensures (fun _ t => t.Permits) (fun _ _ => False)
      (artifacts.forM (s.writeArtifact root)) trial := by
  induction artifacts generalizing trial with
  | nil => exact hPermits
  | cons artifact rest ih =>
      change Job.Ensures _ _
        (s.writeArtifact root artifact >>= fun _ => rest.forM (s.writeArtifact root)) trial
      rw [Job.ensures_bind]
      exact (ensures_writeArtifact_of_permits hPermits artifact).mono (fun _ _ ht => ih ht)
        fun _ _ h => h

theorem ensures_writeAll_of_permits (hPermits : trial.Permits) (set : ArtifactSet) :
    (s.writeAll root set).Ensures (fun _ _ => True) (fun _ _ => False) trial := by
  rw [writeAll, Job.ensures_bind]
  refine (ensures_perform_of_permits hPermits (c := .makeDirs root) rfl).mono (fun _ t h => ?_)
    fun _ _ h => h
  exact (ensures_forM_writeArtifact_of_permits h.2 _).mono (fun _ _ _ => trivial) fun _ _ h => h

/-! ### What arrives -/

/-- What is there after writing a set into an empty store. -/
structure Delivers (set : ArtifactSet) (root : String) (result : Except Failure Unit)
    (after : Store) : Prop where
  succeeds : result = .ok ()
  /-- There is one file for each place to which a path leads. -/
  files : after.files.length = (set.artifacts.map fun artifact => artifact.path.place).dedup.length
  /-- At the path of a file there is the last one for the same place. -/
  reads : ∀ artifact ∈ set.artifacts, after.read? (join root artifact.path.text) =
    (set.artifacts.reverse.find? fun other => other.path.place = artifact.path.place).map
      Artifact.content

/-- There are as many files as in a set, and each one can be read at its path. -/
structure Keeps (set : ArtifactSet) (root : String) (after : Store) : Prop where
  files : after.files.length = set.size
  reads : ∀ artifact ∈ set.artifacts,
    after.read? (join root artifact.path.text) = some artifact.content

theorem delivers_writeAll (s : Synthesizer) (set : ArtifactSet) (hRoot : root ≠ "")
    (hEmpty : trial.store = .empty) (hPermits : trial.Permits) :
    Delivers set root (trial.run (s.writeAll root set).run).1
      (trial.run (s.writeAll root set).run).2.store := by
  have hStore : trial.store.Reachable := hEmpty ▸ .empty
  have hRun := Script.Ensures.run
    ((ensures_writeAll hRoot set).and (ensures_writeAll_of_permits (s := s) hPermits set))
  have hReachable := (Script.ensures_reachable (s.writeAll root set).run hStore).run
  generalize trial.run (s.writeAll root set).run = outcome at hRun hReachable ⊢
  obtain ⟨result, after⟩ := outcome
  cases result with
  | error e => exact hRun.2.elim
  | ok _ =>
      obtain ⟨⟨-, hRead⟩, -⟩ := hRun
      have hContent : ∀ path, after.store.read? path = set.contentAt? root path := by
        intro path
        rw [hRead, hEmpty]
        exact Option.or_none
      refine ⟨rfl, ?_, fun artifact _ => by rw [hContent, ArtifactSet.contentAt?_join hRoot]⟩
      have hThere : ∀ path, parts path ∈ after.store.files.map StoredFile.parts ↔
          parts path ∈ set.artifacts.map fun artifact => parts root ++ artifact.path.place :=
        fun path => by
          rw [← Store.isSome_read?_iff, hContent, ArtifactSet.isSome_contentAt?_iff hRoot]
      have hPerm : (after.store.files.map StoredFile.parts).Perm
          (set.artifacts.map fun artifact => parts root ++ artifact.path.place).dedup := by
        refine (List.perm_ext_iff_of_nodup hReachable.wellPlaced.files
          (List.nodup_dedup _)).mpr fun place => ?_
        rw [List.mem_dedup]
        constructor
        · intro hMem
          obtain ⟨file, -, rfl⟩ := List.mem_map.mp hMem
          exact (hThere file.path).mp hMem
        · intro hMem
          obtain ⟨artifact, -, rfl⟩ := List.mem_map.mp hMem
          have hPath := RelativePath.parts_join hRoot artifact.path
          exact hPath ▸ (hThere _).mpr (hPath ▸ hMem)
      calc
        after.store.files.length = (after.store.files.map StoredFile.parts).length := by
          rw [List.length_map]
        _ = (set.artifacts.map fun artifact => parts root ++ artifact.path.place).dedup.length :=
          hPerm.length_eq
        _ = ((set.artifacts.map fun artifact => artifact.path.place).map
              (parts root ++ ·)).dedup.length := by rw [List.map_map]; rfl
        _ = (set.artifacts.map fun artifact => artifact.path.place).dedup.length := by
          rw [List.dedup_map_of_injective (List.append_right_injective _), List.length_map]

/-- Nothing is missing exactly if all paths lead to different places. -/
theorem Delivers.keeps_iff {set : ArtifactSet} {result : Except Failure Unit} {after : Store}
    (h : Delivers set root result after) :
    Keeps set root after ↔ (set.artifacts.map fun artifact => artifact.path.place).Nodup := by
  have hCount : after.files.length = set.size ↔
      (set.artifacts.map fun artifact => artifact.path.place).Nodup := by
    rw [h.files, ArtifactSet.size, ← length_dedup_eq_iff, List.length_map]
  refine ⟨fun hKeeps => hCount.mp hKeeps.files, fun hNodup =>
    ⟨hCount.mpr hNodup, fun artifact hMem => ?_⟩⟩
  have hReversed : (set.artifacts.reverse.map fun other => other.path.place).Nodup := by
    rw [List.map_reverse]
    exact List.nodup_reverse.mpr hNodup
  rw [h.reads artifact hMem,
    find?_eq_some_of_nodup hReversed (List.mem_reverse.mpr hMem)]
  rfl

/-- A checked set that is written below a directory with a name, where nothing is in the way,
arrives: one file for each place, with the content of the last file for it. Nothing is missing
exactly if no path stands in the set both with and without a dot in front. -/
theorem writeAll_delivers (s : Synthesizer) (root : String) (set : ArtifactSet) (trial : Trial)
    (hValid : set.validate = .ok ()) (hRoot : hasName (parts root) = true)
    (hEmpty : trial.store = .empty) (hPermits : trial.Permits) :
    Delivers set root (trial.run (s.writeAll root set).run).1
        (trial.run (s.writeAll root set).run).2.store ∧
      (Keeps set root (trial.run (s.writeAll root set).run).2.store ↔
        ∀ a ∈ set.artifacts, ∀ b ∈ set.artifacts, a.path.parts ≠ .here :: b.path.parts) := by
  have hRootText : root ≠ "" := by
    rintro rfl
    cases hRoot
  have hDelivers := delivers_writeAll s set hRootText hEmpty hPermits
  exact ⟨hDelivers, hDelivers.keeps_iff.trans (ArtifactSet.nodup_places_iff hValid)⟩

theorem writeAll_delivers_twoPlaces :
    twoPlaces.validate = .ok () ∧ hasName (parts "out/.") = true ∧ Trial.blank.store = .empty ∧
      Trial.blank.Permits ∧ (Trial.blank.run (brief.writeAll "out/." twoPlaces).run).1 = .ok () ∧
      Keeps twoPlaces "out/." (Trial.blank.run (brief.writeAll "out/." twoPlaces).run).2.store := by
  have hValid : twoPlaces.validate = .ok () := by decide +kernel
  have hRoot : hasName (parts "out/.") = true := by decide +kernel
  have hPermits : Trial.blank.Permits := fun _ _ => rfl
  obtain ⟨hDelivers, hKeeps⟩ :=
    writeAll_delivers brief "out/." twoPlaces Trial.blank hValid hRoot rfl hPermits
  exact ⟨hValid, hRoot, rfl, hPermits, hDelivers.succeeds, hKeeps.mpr (by decide +kernel)⟩

/-- Two files whose paths differ in a dot in front. -/
def onePlace : ArtifactSet :=
  ⟨[⟨⟨"Base.json", by decide⟩, "first"⟩, ⟨⟨"./Base.json", by decide⟩, "second"⟩]⟩

/-- The check accepts both files, but only the second one arrives. -/
theorem writeAll_overwrites :
    onePlace.validate = .ok () ∧ hasName (parts "out") = true ∧ Trial.blank.store = .empty ∧
      Trial.blank.Permits ∧
      (Trial.blank.run (brief.writeAll "out" onePlace).run).2.store.files.length = 1 ∧
      (Trial.blank.run (brief.writeAll "out" onePlace).run).2.store.read? "out/Base.json" =
        some "second" ∧
      ¬ Keeps onePlace "out" (Trial.blank.run (brief.writeAll "out" onePlace).run).2.store := by
  have hPermits : Trial.blank.Permits := fun _ _ => rfl
  have hDelivers := delivers_writeAll brief onePlace (show "out" ≠ "" by decide) rfl hPermits
  have hCount : (onePlace.artifacts.map fun artifact => artifact.path.place).dedup.length = 1 := by
    decide +kernel
  refine ⟨by decide +kernel, by decide +kernel, rfl, hPermits, hDelivers.files.trans hCount, ?_,
    fun hKeeps => ?_⟩
  · have hPath : join "out" "Base.json" = "out/Base.json" := by decide +kernel
    rw [← hPath, hDelivers.reads ⟨⟨"Base.json", by decide⟩, "first"⟩ List.mem_cons_self]
    decide +kernel
  · have hBoth := hKeeps.files
    rw [hDelivers.files, hCount] at hBoth
    revert hBoth
    decide

end Synthesizer

end Blueprint

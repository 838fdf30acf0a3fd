import Blueprint.Proofs.Assembly.Order
import Mathlib.Data.List.Forall2

/-! One topology of an assembly in the place of another one. What others see of a topology is its
entry in the manifest and the references that it makes to them, so two topologies that agree in
these can be exchanged, and no file but the template of the topology itself can tell. -/

namespace Blueprint

/-- Two topologies look the same from outside: the manifest lists them alike, and they use the same
of others. -/
structure Topology.LooksLike (t t' : Topology) : Prop where
  name : t.name = t'.name
  region : t.region = t'.region
  crossRegion : t.crossRegion = t'.crossRegion
  dependencies : t.dependencies = t'.dependencies
  uses : ∀ r, r ∈ t.foreignReferences ↔ r ∈ t'.foreignReferences

/-- Two assemblies differ at most in one topology, which looks the same in both. -/
def Assembly.DiffersIn (name : String) (a b : Assembly) : Prop :=
  ∃ before t t' after, a.topologies = before ++ t :: after ∧ b.topologies = before ++ t' :: after ∧
    t.LooksLike t' ∧ t.name = name

/-- Two sets of files have the same paths in the same order, and the same text under every path but
one. -/
def ArtifactSet.AgreeExcept (path : String) (files files' : ArtifactSet) : Prop :=
  List.Forall₂
    (fun file file' => file.path = file'.path ∧
      (file.path.text ≠ path → file.content = file'.content))
    files.artifacts files'.artifacts

theorem forall₂_replace {α : Type} {R : α → α → Prop} (hRefl : ∀ a, R a a) {before after : List α}
    {a b : α} (h : R a b) : List.Forall₂ R (before ++ a :: after) (before ++ b :: after) :=
  List.rel_append (List.forall₂_same.mpr fun a _ => hRefl a)
    (.cons h (List.forall₂_same.mpr fun a _ => hRefl a))

theorem RelativePath.text_injective : Function.Injective RelativePath.text := by
  rintro ⟨text, hText⟩ ⟨_, _⟩ rfl
  rfl

namespace Assembly

open Blueprint.Template

/-- The files that rendering an assembly gives, if it gives any. -/
theorem files_of_render_eq_ok {a : Assembly} {compact : Bool} {metadata : RenderMetadata}
    {files : ArtifactSet} (h : a.render compact metadata = .ok files) :
    files.artifacts.map (fun file => (file.path.text, file.content)) =
      a.topologies.map (fun t => (fileName t.name, encode compact (a.template t))) ++
        [(manifestFile, encode compact (a.manifest metadata))] := by
  have hArtifact : ∀ {file : String} {json : Json} {rendered : Artifact},
      artifact compact file json = .ok rendered →
        (rendered.path.text, rendered.content) = (file, encode compact json) := by
    intro file json rendered h
    obtain ⟨path, hPath, h⟩ := bind_eq_ok_iff.mp h
    cases h
    unfold RelativePath.ofString at hPath
    split at hPath
    · cases hPath
      rfl
    · cases hPath
  obtain ⟨templates, hTemplates, h⟩ := bind_eq_ok_iff.mp h
  obtain ⟨manifest, hManifest, h⟩ := bind_eq_ok_iff.mp h
  cases h
  have hPairs : templates.map (fun file => (file.path.text, file.content)) =
      a.topologies.map fun t => (fileName t.name, encode compact (a.template t)) := by
    rw [mapM_eq_ok_iff, ← List.forall₂_eq_eq_eq, List.forall₂_map_left_iff,
      List.forall₂_map_right_iff] at hTemplates
    rw [← List.forall₂_eq_eq_eq, List.forall₂_map_left_iff, List.forall₂_map_right_iff]
    exact hTemplates.flip.imp fun _ _ => hArtifact
  rw [List.map_append, List.map_singleton, hArtifact hManifest, hPairs]

variable {a b : Assembly} {name : String} (h : a.DiffersIn name b)

include h

theorem DiffersIn.mem_uses_iff (use : Region × Reference) : use ∈ a.uses ↔ use ∈ b.uses := by
  obtain ⟨before, t, t', after, hLeft, hRight, hLike, -⟩ := h
  simp only [uses, hLeft, hRight, List.flatMap_append, List.flatMap_cons, List.mem_append,
    List.mem_map, hLike.region, hLike.uses]

theorem DiffersIn.manifest_eq (metadata : RenderMetadata) :
    a.manifest metadata = b.manifest metadata := by
  obtain ⟨before, t, t', after, hLeft, hRight, hLike, -⟩ := h
  have hEntry : manifestEntry t = manifestEntry t' := by
    rw [manifestEntry, manifestEntry, hLike.name, hLike.region, hLike.crossRegion,
      hLike.dependencies]
  simp only [manifest, names, hLeft, hRight, List.map_append, List.map_cons, hEntry, hLike.name]

/-- Only the template of the topology itself can tell which of the two it is. -/
theorem DiffersIn.agreeExcept {compact : Bool} {metadata : RenderMetadata}
    {files files' : ArtifactSet} (hFiles : a.render compact metadata = .ok files)
    (hFiles' : b.render compact metadata = .ok files') :
    files.AgreeExcept (fileName name) files' := by
  have hTemplates : a.template = b.template := funext (template_congr h.mem_uses_iff)
  have hManifest := h.manifest_eq metadata
  obtain ⟨before, t, t', after, hLeft, hRight, hLike, rfl⟩ := h
  -- Files are compared as pairs of path and text first.
  have hPairs : List.Forall₂
      (fun file file' => file.1 = file'.1 ∧ (file.1 ≠ fileName t.name → file.2 = file'.2))
      (files.artifacts.map fun file => (file.path.text, file.content))
      (files'.artifacts.map fun file => (file.path.text, file.content)) := by
    rw [files_of_render_eq_ok hFiles, files_of_render_eq_ok hFiles', hTemplates, hManifest, hLeft,
      hRight]
    simp only [List.map_append, List.map_cons, List.append_assoc, List.cons_append]
    refine forall₂_replace (fun file => ⟨rfl, fun _ => rfl⟩) ⟨by rw [hLike.name], fun hOther => ?_⟩
    exact absurd rfl hOther
  rw [List.forall₂_map_left_iff, List.forall₂_map_right_iff] at hPairs
  exact hPairs.imp fun _ _ ⟨hPath, hContent⟩ => ⟨RelativePath.text_injective hPath, hContent⟩

end Assembly

end Blueprint

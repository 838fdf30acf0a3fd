import Mathlib.Data.List.Dedup
import Mathlib.Data.List.Induction
import Mathlib.Data.List.Nodup

/-! Checks that stop at the first fault. A sequence of checks passes when each of them does. -/

namespace Blueprint

variable {ε α β : Type}

theorem bind_eq_ok_iff {x : Except ε α} {f : α → Except ε β} {b : β} :
    (x >>= f) = .ok b ↔ ∃ a, x = .ok a ∧ f a = .ok b := by
  cases x with
  | error e =>
      constructor
      · intro h
        cases h
      · rintro ⟨_, h, _⟩
        cases h
  | ok a =>
      constructor
      · exact fun h => ⟨a, rfl, h⟩
      · rintro ⟨_, hEq, h⟩
        cases hEq
        exact h

theorem bind_eq_error_iff {x : Except ε α} {f : α → Except ε β} {e : ε} :
    (x >>= f) = .error e ↔ x = .error e ∨ ∃ a, x = .ok a ∧ f a = .error e := by
  cases x with
  | error e' =>
      constructor
      · intro h
        cases h
        exact .inl rfl
      · rintro (h | ⟨_, h, _⟩)
        · cases h
          rfl
        · cases h
  | ok a =>
      constructor
      · exact fun h => .inr ⟨a, rfl, h⟩
      · rintro (h | ⟨_, hEq, h⟩)
        · cases h
        · cases hEq
          exact h

theorem then_eq_ok_iff {x : Except ε Unit} {y : Except ε β} {b : β} :
    (x >>= fun _ => y) = .ok b ↔ x = .ok () ∧ y = .ok b := by
  rw [bind_eq_ok_iff]
  exact ⟨fun ⟨_, hx, hy⟩ => ⟨hx, hy⟩, fun ⟨hx, hy⟩ => ⟨(), hx, hy⟩⟩

theorem map_eq_ok_iff {f : α → β} {x : Except ε α} {b : β} :
    f <$> x = .ok b ↔ ∃ a, x = .ok a ∧ f a = b := by
  cases x <;> simp [Functor.map, Except.map]

theorem mapM_eq_ok_iff {f : α → Except ε β} {items : List α} {results : List β} :
    items.mapM f = .ok results ↔ items.map f = results.map .ok := by
  induction items generalizing results with
  | nil =>
      rw [List.mapM_nil, List.map_nil, eq_comm (a := []), List.map_eq_nil_iff]
      constructor
      · intro h
        cases h
        rfl
      · rintro rfl
        rfl
  | cons first rest ih =>
      rw [List.mapM_cons, bind_eq_ok_iff]
      constructor
      · rintro ⟨b, hFirst, h⟩
        obtain ⟨others, hRest, h⟩ := bind_eq_ok_iff.mp h
        cases h
        rw [List.map_cons, List.map_cons, hFirst, ih.mp hRest]
      · intro h
        obtain ⟨b, others, rfl, hFirst, hRest⟩ := List.map_eq_cons_iff.mp h.symm
        exact ⟨b, hFirst.symm, bind_eq_ok_iff.mpr ⟨others, ih.mpr hRest.symm, rfl⟩⟩

/-- A sequence of steps fails at one of them. -/
theorem exists_of_mapM_eq_error {f : α → Except ε β} {items : List α} {e : ε}
    (h : items.mapM f = .error e) : ∃ a ∈ items, f a = .error e := by
  induction items with
  | nil => cases h
  | cons first rest ih =>
      rw [List.mapM_cons, bind_eq_error_iff] at h
      rcases h with hFirst | ⟨b, -, h⟩
      · exact ⟨first, List.mem_cons_self, hFirst⟩
      · rcases bind_eq_error_iff.mp h with hRest | ⟨others, -, h⟩
        · obtain ⟨a, hMem, hError⟩ := ih hRest
          exact ⟨a, List.mem_cons_of_mem _ hMem, hError⟩
        · cases h

/-- When no step fails, neither does the sequence, and what is known of each result is known of
all of them. -/
theorem exists_mapM_eq_ok {γ : Type} {f : α → Except ε β} {k : β → γ} {g : α → γ} {items : List α}
    (h : ∀ a ∈ items, ∃ b, f a = .ok b ∧ k b = g a) :
    ∃ results, items.mapM f = .ok results ∧ results.map k = items.map g := by
  induction items with
  | nil => exact ⟨[], rfl, rfl⟩
  | cons first rest ih =>
      obtain ⟨hFirst, hRest⟩ := List.forall_mem_cons.mp h
      obtain ⟨b, hOk, hKey⟩ := hFirst
      obtain ⟨results, hResults, hKeys⟩ := ih hRest
      refine ⟨b :: results, ?_, by rw [List.map_cons, List.map_cons, hKey, hKeys]⟩
      rw [List.mapM_cons, hOk, hResults]
      rfl

theorem forM_eq_ok_iff {items : List α} {check : α → Except ε Unit} :
    items.forM check = .ok () ↔ ∀ a ∈ items, check a = .ok () := by
  induction items with
  | nil => simp [pure, Except.pure]
  | cons first rest ih =>
      rw [List.forM_eq_forM] at ih ⊢
      rw [List.forM_cons, then_eq_ok_iff, ih, List.forall_mem_cons]

/-- A sequence of checks fails at one of them. -/
theorem exists_of_forM_eq_error {items : List α} {check : α → Except ε Unit} {e : ε}
    (h : items.forM check = .error e) : ∃ a ∈ items, check a = .error e := by
  induction items with
  | nil => cases h
  | cons first rest ih =>
      rw [List.forM_eq_forM] at h ih
      rw [List.forM_cons, bind_eq_error_iff] at h
      rcases h with hFirst | ⟨-, -, hRest⟩
      · exact ⟨first, List.mem_cons_self, hFirst⟩
      · obtain ⟨a, hMem, hError⟩ := ih hRest
        exact ⟨a, List.mem_cons_of_mem _ hMem, hError⟩

/-- What holds of every element of a list together with the elements before it. -/
theorem forall_split_cons {P : List α → α → Prop} {first : α} {rest : List α} :
    (∀ before a after, first :: rest = before ++ a :: after → P before a) ↔
      P [] first ∧ ∀ before a after, rest = before ++ a :: after → P (first :: before) a := by
  constructor
  · intro h
    refine ⟨h [] first rest rfl, fun before a after hRest => h (first :: before) a after ?_⟩
    rw [hRest, List.cons_append]
  · rintro ⟨hFirst, hRest⟩ before a after hEq
    cases before with
    | nil =>
        obtain ⟨rfl, -⟩ := List.cons.inj hEq
        exact hFirst
    | cons head before =>
        obtain ⟨rfl, hTail⟩ := List.cons.inj hEq
        exact hRest before a after hTail

theorem forall_split_append {P : List α → α → Prop} {front back : List α} :
    (∀ before a after, front ++ back = before ++ a :: after → P before a) ↔
      (∀ before a after, front = before ++ a :: after → P before a) ∧
        ∀ before a after, back = before ++ a :: after → P (front ++ before) a := by
  induction front generalizing P with
  | nil => simp
  | cons first rest ih =>
      rw [List.cons_append, forall_split_cons, forall_split_cons, ih, and_assoc]
      rfl

/-- Nothing is repeated exactly when every element adds only what those before it do not have. -/
theorem nodup_flatMap_iff_split {f : α → List β} {items : List α} :
    (items.flatMap f).Nodup ↔ ∀ before a after, items = before ++ a :: after →
      (f a).Nodup ∧ ∀ b ∈ f a, b ∉ before.flatMap f := by
  constructor
  · rintro hNodup before a after rfl
    rw [List.flatMap_append, List.flatMap_cons, ← List.append_assoc] at hNodup
    obtain ⟨-, hHead, hDisjoint⟩ := List.nodup_append.mp (List.nodup_append.mp hNodup).1
    exact ⟨hHead, fun b hMem hBefore => hDisjoint b hBefore b hMem rfl⟩
  · intro h
    induction items using List.reverseRecOn with
    | nil => exact List.nodup_nil
    | append_singleton items last ih =>
        obtain ⟨hLast, hNew⟩ := h items last [] rfl
        rw [List.flatMap_append, List.flatMap_singleton]
        refine List.nodup_append.mpr ⟨ih fun before a after hItems => ?_, hLast, ?_⟩
        · refine h before a (after ++ [last]) ?_
          rw [hItems, List.append_assoc, List.cons_append]
        · rintro b hItems _ hMem rfl
          exact hNew b hMem hItems

theorem nodup_map_iff_split {f : α → β} {items : List α} :
    (items.map f).Nodup ↔ ∀ before a after, items = before ++ a :: after →
      f a ∉ before.map f := by
  rw [List.map_eq_flatMap, nodup_flatMap_iff_split]
  simp only [← List.map_eq_flatMap, List.mem_singleton, forall_eq, List.nodup_singleton, true_and]

theorem length_dedup_eq_iff [DecidableEq α] {items : List α} :
    items.dedup.length = items.length ↔ items.Nodup := by
  rw [← List.dedup_eq_self]
  exact ⟨(List.dedup_sublist items).eq_of_length, congrArg List.length⟩

/-- The element that has a value which no other one has is the one that is found. -/
theorem find?_eq_some_of_nodup {f : α → β} [DecidableEq β] {items : List α}
    (hNodup : (items.map f).Nodup) {a : α} (hMem : a ∈ items) :
    (items.find? fun b => f b = f a) = some a := by
  induction items with
  | nil => cases hMem
  | cons first rest ih =>
      obtain ⟨hFirst, hRest⟩ := List.nodup_cons.mp hNodup
      rcases List.mem_cons.mp hMem with rfl | hMem
      · simp
      · have hOther : f first ≠ f a := fun hSame =>
          hFirst (List.mem_map.mpr ⟨a, hMem, hSame.symm⟩)
        rw [List.find?_cons_of_neg (by simpa using hOther)]
        exact ih hRest hMem

/-- What an optional element adds is within what it would add if it is there. -/
theorem flatMap_toList_sublist {optional : Option α} {f : α → List β} {all : List β}
    (h : ∀ a ∈ optional, (f a).Sublist all) : (optional.toList.flatMap f).Sublist all := by
  cases optional with
  | none => exact List.nil_sublist _
  | some a => simpa using h a rfl

/-- Where no value stands twice, an element with a value is all that a filter for it leaves. -/
theorem filter_eq_singleton {f : α → Option β} {items : List α}
    (hNodup : (items.filterMap f).Nodup) {a : α} (hMem : a ∈ items) {b : β} (hValue : f a = some b)
    {p : α → Bool} (hp : ∀ x, p x = true ↔ f x = some b) : items.filter p = [a] := by
  induction items with
  | nil => cases hMem
  | cons first rest ih =>
      have hOther : f first = some b → ∀ x ∈ rest, f x ≠ some b := by
        intro hFirst x hRest hSame
        rw [List.filterMap_cons_some hFirst, List.nodup_cons] at hNodup
        exact hNodup.1 (List.mem_filterMap.mpr ⟨x, hRest, hSame⟩)
      rcases List.mem_cons.mp hMem with rfl | hRest
      · rw [List.filter_cons_of_pos ((hp _).mpr hValue)]
        refine congrArg _ (List.filter_eq_nil_iff.mpr fun x hMem hTrue => ?_)
        exact hOther hValue x hMem ((hp x).mp hTrue)
      · have hFirst : f first ≠ some b := fun h => hOther h a hRest hValue
        rw [List.filter_cons_of_neg (mt (hp first).mp hFirst)]
        refine ih (hNodup.sublist ?_) hRest
        exact (List.sublist_cons_self first rest).filterMap f

end Blueprint

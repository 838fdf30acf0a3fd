import Mathlib.Data.List.Basic

/-! Checks that decide rules one after the other. A check passes when all rules hold and fails at
the first one that is broken, so a sequence of checks decides the rules of all of them in order. -/

namespace Blueprint

/-- A rule, under the key that it is about. -/
structure Rule where
  key : String
  holds : Prop

/-- A check judges some rules when it succeeds, with a result of the right kind, if all of them
hold, and otherwise tells the key of the first one that is broken. -/
inductive Judges {ε α : Type} (key? : ε → Option String) (rules : List Rule) (result : α → Prop) :
    Except ε α → Prop where
  | passed {a : α} (hRules : ∀ rule ∈ rules, rule.holds) (hResult : result a) :
      Judges key? rules result (.ok a)
  | failed {e : ε} {before after : List Rule} {rule : Rule}
      (hRules : rules = before ++ rule :: after) (hBefore : ∀ earlier ∈ before, earlier.holds)
      (hBroken : ¬ rule.holds) (hKey : key? e = some rule.key) : Judges key? rules result (.error e)

namespace Judges

variable {ε α β : Type} {key? : ε → Option String} {rule : Rule} {rules more : List Rule}
  {result : α → Prop} {result' : β → Prop} {x : Except ε α}

/-- A check that tells its first rule. -/
theorem first {e : ε} (hBroken : ¬ rule.holds) (hKey : key? e = some rule.key) :
    Judges key? (rule :: rules) result (.error e) :=
  .failed (List.nil_append _).symm (List.forall_mem_nil _) hBroken hKey

theorem pure {a : α} (h : result a) : Judges key? [] result (.ok a) :=
  .passed (List.forall_mem_nil _) h

/-- A rule that goes without being checked. -/
theorem given (hRule : rule.holds) (hx : Judges key? rules result x) :
    Judges key? (rule :: rules) result x := by
  cases hx with
  | passed hRules hResult => exact .passed (List.forall_mem_cons.mpr ⟨hRule, hRules⟩) hResult
  | failed hRules hBefore hBroken hKey =>
      exact .failed (congrArg (rule :: ·) hRules) (List.forall_mem_cons.mpr ⟨hRule, hBefore⟩)
        hBroken hKey

/-- A rule whose breach ends the check. -/
theorem guard {c : Prop} [Decidable c] {e : ε} (hRule : ¬ c ↔ rule.holds)
    (hKey : key? e = some rule.key) (hx : Judges key? rules result x) :
    Judges key? (rule :: rules) result (if c then .error e else x) := by
  split
  next hTrue => exact first (fun h => hRule.mpr h hTrue) hKey
  next hFalse => exact given (hRule.mp hFalse) hx

/-- A single rule, decided by a condition. -/
theorem ite {c : Prop} [Decidable c] {a : α} {e : ε} (hRule : c ↔ rule.holds)
    (hKey : key? e = some rule.key) :
    Judges key? [rule] (· = a) (if c then .ok a else .error e) := by
  split
  next hTrue => exact given (hRule.mp hTrue) (.pure rfl)
  next hFalse => exact first (mt hRule.mpr hFalse) hKey

/-- Of two checks, the first one tells about its rules first. -/
theorem bind {f : α → Except ε β} (hx : Judges key? rules result x)
    (hf : ∀ a, result a → Judges key? more result' (f a)) :
    Judges key? (rules ++ more) result' (x >>= f) := by
  cases hx with
  | @failed e before after rule hRules hBefore hBroken hKey =>
      have hAll : rules ++ more = before ++ rule :: (after ++ more) := by
        rw [hRules, List.append_assoc, List.cons_append]
      exact .failed hAll hBefore hBroken hKey
  | @passed a hRules hResult =>
      induction rules with
      | nil => exact hf a hResult
      | cons rule rules ih =>
          obtain ⟨hRule, hRules⟩ := List.forall_mem_cons.mp hRules
          exact given hRule (ih hRules)

/-- `bind` after a check of a single rule. -/
theorem cons {f : α → Except ε β} (hx : Judges key? [rule] result x)
    (hf : ∀ a, result a → Judges key? rules result' (f a)) :
    Judges key? (rule :: rules) result' (x >>= f) :=
  hx.bind hf

theorem map {f : α → β} (hx : Judges key? rules result x) (hf : ∀ a, result a → result' (f a)) :
    Judges key? rules result' (x >>= fun a => .ok (f a)) := by
  cases hx with
  | passed hRules h => exact .passed hRules (hf _ h)
  | failed hRules hBefore hBroken hKey => exact .failed hRules hBefore hBroken hKey

theorem result_of_ok {a : α} (hx : Judges key? rules result (.ok a)) : result a := by
  cases hx with
  | passed hRules hResult => exact hResult

theorem ok_iff (hx : Judges key? rules result x) :
    (∃ a, x = .ok a) ↔ ∀ rule ∈ rules, rule.holds := by
  cases hx with
  | passed hRules hResult => exact iff_of_true ⟨_, rfl⟩ hRules
  | failed hRules hBefore hBroken hKey =>
      refine iff_of_false ?_ fun hAll => hBroken (hAll _ ?_)
      · rintro ⟨a, hOk⟩
        cases hOk
      · rw [hRules]
        exact List.mem_append_right _ List.mem_cons_self

end Judges

end Blueprint

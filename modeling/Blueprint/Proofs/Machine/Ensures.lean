import Blueprint.Machine.Trial

/-! What a script ensures on the machine of a trial. The events that it puts on record may be any,
so that nothing depends on the spans around it. Statements about longer scripts are put together
from those about their steps. -/

namespace Blueprint

variable {ε ε' α β : Type}

/-- Whether two questions differ in nothing but the event that they put on record. -/
def Ask.Alike : Ask → Ask → Prop
  | note _, asked => ∃ event, asked = note event
  | question, asked => asked = question

theorem Ask.Alike.refl (question : Ask) : question.Alike question := by
  cases question with
  | note event => exact ⟨event, rfl⟩
  | _ => rfl

namespace Trial

/-- The trial with a question on record. -/
def record (trial : Trial) (question : Ask) : Trial :=
  { trial with asked := question :: trial.asked }

theorem run_ask (question : Ask) (next : question.Answer → Script α) (trial : Trial) :
    run (.ask question next) trial =
      run (next (answer question trial).1) ((answer question trial).2.record question) := rfl

@[simp] theorem record_store (trial : Trial) (question : Ask) :
    (trial.record question).store = trial.store := rfl

@[simp] theorem record_asked (trial : Trial) (question : Ask) :
    (trial.record question).asked = question :: trial.asked := rfl

@[simp] theorem record_refusal (trial : Trial) (question : Ask) :
    (trial.record question).refusal = trial.refusal := rfl

/-- A change is either made or leaves the files alone. -/
theorem change_cases (trial : Trial) (c : Change) :
    (∃ store, trial.store.apply c = .ok store ∧ trial.change c = (.ok (), { trial with store })) ∨
      ∃ fault, (trial.refusal trial.asked c = some fault ∨ trial.store.apply c = .error fault) ∧
        trial.change c = (.error fault, trial) := by
  unfold change
  cases hRefusal : trial.refusal trial.asked c with
  | some fault => exact .inr ⟨fault, .inl rfl, rfl⟩
  | none =>
      cases hApply : trial.store.apply c with
      | error fault => exact .inr ⟨fault, .inr rfl, rfl⟩
      | ok store => exact .inl ⟨store, rfl, rfl⟩

/-- Whether a change is let through does not depend on what is on record. -/
def Forgetful (trial : Trial) : Prop := ∀ asked c, trial.refusal asked c = trial.refusal [] c

theorem Forgetful.answer_eq {trial : Trial} (h : trial.Forgetful) (question : Ask)
    (asked : List Ask) :
    answer question { trial with asked } =
      ((answer question trial).1, { (answer question trial).2 with asked }) := by
  cases question with
  | change c =>
      rw [answer, answer, change, change, h asked, h trial.asked]
      cases trial.refusal [] c with
      | some fault => rfl
      | none => cases trial.store.apply c <;> rfl
  | _ => rfl

/-- A question by itself changes neither the record nor which changes fail. -/
theorem answer_frame (question : Ask) (trial : Trial) :
    (answer question trial).2.asked = trial.asked ∧
      (answer question trial).2.refusal = trial.refusal := by
  cases question with
  | change c =>
      rw [answer]
      rcases trial.change_cases c with ⟨store, -, hChange⟩ | ⟨fault, -, hChange⟩ <;>
        simp [hChange]
  | _ => exact ⟨rfl, rfl⟩

end Trial

namespace Script

open Trial

/-- Whatever events a script puts on record, it ends with a result and a machine as said. -/
def Ensures (post : α → Trial → Prop) : Script α → Trial → Prop
  | done a, trial => post a trial
  | ask question next, trial => ∀ asked, question.Alike asked →
    Ensures post (next (answer question trial).1) ((answer question trial).2.record asked)

variable {post post' : α → Trial → Prop} {s : Script α} {trial : Trial}

theorem Ensures.run (h : s.Ensures post trial) :
    post (Trial.run s trial).1 (Trial.run s trial).2 := by
  induction s generalizing trial with
  | done a => exact h
  | ask question next ih => exact ih _ (h question (Ask.Alike.refl question))

theorem Ensures.mono (h : s.Ensures post trial) (hPost : ∀ a t, post a t → post' a t) :
    s.Ensures post' trial := by
  induction s generalizing trial with
  | done a => exact hPost _ _ h
  | ask question next ih => exact fun asked hAlike => ih _ (h asked hAlike)

/-- A span around a script makes no difference. -/
theorem Ensures.within (h : s.Ensures post trial) (span : Trace.Span) :
    (Script.within span s).Ensures post trial := by
  induction s generalizing trial with
  | done a => exact h
  | ask question next ih =>
      cases question with
      | note event | _ => exact fun asked hAlike => ih _ (h asked hAlike)

/-- Two statements about a script hold together. -/
theorem Ensures.and (h : s.Ensures post trial) (h' : s.Ensures post' trial) :
    s.Ensures (fun a t => post a t ∧ post' a t) trial := by
  induction s generalizing trial with
  | done a => exact ⟨h, h'⟩
  | ask question next ih =>
      exact fun asked hAlike => ih _ (h asked hAlike) (h' asked hAlike)

/-- What has been asked stays on record, and the same changes go on failing. -/
theorem ensures_frame (s : Script α) (trial : Trial) :
    s.Ensures (fun _ t => trial.asked <:+ t.asked ∧ t.refusal = trial.refusal) trial := by
  induction s generalizing trial with
  | done a => exact ⟨List.suffix_refl _, rfl⟩
  | ask question next ih =>
      intro asked _
      refine (ih _ _).mono fun _ t hFrame => ?_
      obtain ⟨hAsked, hRefusal⟩ := hFrame
      rw [record_asked, (answer_frame question trial).1] at hAsked
      rw [record_refusal, (answer_frame question trial).2] at hRefusal
      exact ⟨(List.suffix_cons _ _).trans hAsked, hRefusal⟩

@[simp] theorem ensures_pure (a : α) : (pure a : Script α).Ensures post trial ↔ post a trial :=
  Iff.rfl

@[simp] theorem ensures_bind (s : Script α) (f : α → Script β) {post : β → Trial → Prop} :
    (s >>= f).Ensures post trial ↔ s.Ensures (fun a t => (f a).Ensures post t) trial := by
  change (s.bind f).Ensures post trial ↔ _
  induction s generalizing trial with
  | done a => rfl
  | ask question next ih => exact forall_congr' fun asked => forall_congr' fun _ => ih _

@[simp] theorem ensures_pathExists (path : String) {post : Bool → Trial → Prop} :
    (pathExists path).Ensures post trial ↔
      post (trial.store.contains path) (trial.record (.pathExists path)) :=
  forall_eq

@[simp] theorem ensures_holdsWorkingDir (path : String) {post : Bool → Trial → Prop} :
    (holdsWorkingDir path).Ensures post trial ↔
      post (trial.holdsWorkingDir path) (trial.record (.holdsWorkingDir path)) :=
  forall_eq

@[simp] theorem ensures_change (c : Change) {post : Except Fault Unit → Trial → Prop} :
    (change c).Ensures post trial ↔
      post (trial.change c).1 ((trial.change c).2.record (.change c)) :=
  forall_eq

@[simp] theorem ensures_note (level : Trace.Level) (origin : Trace.Origin) (message : String)
    (fields : List Trace.Field) {post : Unit → Trial → Prop} :
    (note level origin message fields).Ensures post trial ↔
      ∀ event, post () (trial.record (.note event)) :=
  ⟨fun h event => h _ ⟨event, rfl⟩, fun h _ ⟨event, hEvent⟩ => hEvent ▸ h event⟩

/-- On a forgetful machine a script comes to the same, whatever is on record and whatever events it
adds. -/
theorem ensures_run_of_forgetful (s : Script α) {trial : Trial} (h : trial.Forgetful)
    (asked : List Ask) :
    s.Ensures (fun a t => a = (Trial.run s trial).1 ∧ t.store = (Trial.run s trial).2.store)
      { trial with asked } := by
  induction s generalizing trial asked with
  | done a => exact ⟨rfl, rfl⟩
  | ask question next ih =>
      have hNext : ((answer question trial).2.record question).Forgetful := by
        intro asked c
        rw [record_refusal, (answer_frame question trial).2]
        exact h asked c
      intro other _
      rw [h.answer_eq, run_ask]
      exact ih _ hNext (other :: asked)

/-! ### What a script asks for -/

/-- A script that asks only for changes of some kind, whatever it is told. -/
inductive Asks (P : Change → Prop) : Script α → Prop where
  | done (a : α) : Asks P (done a)
  | ask {question : Ask} {next : question.Answer → Script α}
      (hQuestion : ∀ c, question = .change c → P c) (hNext : ∀ answer, Asks P (next answer)) :
      Asks P (ask question next)

variable {P : Change → Prop}

theorem Asks.bind (h : s.Asks P) {f : α → Script β} (hNext : ∀ a, (f a).Asks P) :
    (s >>= f).Asks P := by
  change (s.bind f).Asks P
  induction h with
  | done a => exact hNext a
  | ask hQuestion _ ih => exact .ask hQuestion ih

theorem Asks.within (h : s.Asks P) (span : Trace.Span) : (Script.within span s).Asks P := by
  induction h with
  | done a => exact .done a
  | @ask question next hQuestion _ ih =>
      cases question with
      | note event => exact .ask (fun c hChange => by cases hChange) ih
      | _ => exact .ask hQuestion ih

theorem asks_change {c : Change} (h : P c) : (change c).Asks P :=
  .ask (fun _ hChange => by cases hChange; exact h) fun _ => .done _

/-! ### Scripts without changes -/

/-- A script that asks for no change. -/
inductive Quiet : Script α → Prop where
  | done (a : α) : Quiet (done a)
  | ask {question : Ask} {next : question.Answer → Script α}
      (hQuestion : ∀ c, question ≠ .change c) (hNext : ∀ answer, Quiet (next answer)) :
      Quiet (ask question next)

theorem Quiet.asks (h : s.Quiet) (P : Change → Prop) : s.Asks P := by
  induction h with
  | done a => exact .done a
  | ask hQuestion _ ih => exact .ask (fun c hChange => absurd hChange (hQuestion c)) ih

theorem quiet_iff_asks : s.Quiet ↔ s.Asks fun _ => False := by
  constructor
  · exact fun h => h.asks _
  · intro h
    induction h with
    | done a => exact .done a
    | ask hQuestion _ ih => exact .ask hQuestion ih

theorem Quiet.bind (h : s.Quiet) {f : α → Script β} (hNext : ∀ a, (f a).Quiet) :
    (s >>= f).Quiet :=
  quiet_iff_asks.mpr ((h.asks _).bind fun a => (hNext a).asks _)

theorem Quiet.within (h : s.Quiet) (span : Trace.Span) : (Script.within span s).Quiet :=
  quiet_iff_asks.mpr ((h.asks _).within span)

/-- The result of a script without changes depends on nothing that is on record, and it changes
nothing else. -/
theorem Quiet.ensures_run (h : s.Quiet) (trial : Trial) :
    s.Ensures (fun a t => a = (Trial.run s trial).1 ∧ ∃ asked, t = { trial with asked }) trial := by
  suffices hAny : ∀ asked, s.Ensures
      (fun a t => a = (Trial.run s trial).1 ∧ ∃ asked, t = { trial with asked })
      { trial with asked } from hAny trial.asked
  induction h generalizing trial with
  | done a => exact fun asked => ⟨rfl, asked, rfl⟩
  | @ask question next hQuestion _ ih =>
      have hAnswer (asked : List Ask) : answer question { trial with asked } =
          ((answer question trial).1, { trial with asked }) := by
        cases question with
        | change c => exact absurd rfl (hQuestion c)
        | _ => rfl
      intro asked other _
      rw [hAnswer, run_ask, congrArg Prod.snd (hAnswer trial.asked)]
      exact ih _ (trial.record question) (other :: asked)

end Script

namespace Job

open Script

/-- Whatever events a job puts on record, it succeeds or fails as said. -/
def Ensures (ok : α → Trial → Prop) (error : ε → Trial → Prop) (job : Job ε α) (trial : Trial) :
    Prop :=
  job.run.Ensures (fun result t => match result with
    | .ok a => ok a t
    | .error e => error e t) trial

variable {ok ok' : α → Trial → Prop} {error error' : ε → Trial → Prop} {job : Job ε α}
  {trial : Trial}

theorem Ensures.mono (h : job.Ensures ok error trial) (hOk : ∀ a t, ok a t → ok' a t)
    (hError : ∀ e t, error e t → error' e t) : job.Ensures ok' error' trial := by
  refine Script.Ensures.mono h fun result t hResult => ?_
  cases result with
  | ok a => exact hOk a t hResult
  | error e => exact hError e t hResult

theorem Ensures.run {P : Except ε α → Trial → Prop}
    (h : job.Ensures (fun a t => P (.ok a) t) (fun e t => P (.error e) t) trial) :
    P (trial.run job.run).1 (trial.run job.run).2 := by
  refine Script.Ensures.run (Script.Ensures.mono h fun result t hResult => ?_)
  cases result with
  | ok a | error e => exact hResult

theorem Ensures.within (h : job.Ensures ok error trial) (span : Trace.Span) :
    (Job.within span job).Ensures ok error trial :=
  Script.Ensures.within h span

theorem Ensures.and (h : job.Ensures ok error trial) (h' : job.Ensures ok' error' trial) :
    job.Ensures (fun a t => ok a t ∧ ok' a t) (fun e t => error e t ∧ error' e t) trial := by
  refine (Script.Ensures.and h h').mono fun result t hResult => ?_
  cases result with
  | ok a | error e => exact hResult

theorem ensures_frame (job : Job ε α) (trial : Trial) :
    job.Ensures (fun _ t => trial.asked <:+ t.asked ∧ t.refusal = trial.refusal)
      (fun _ t => trial.asked <:+ t.asked ∧ t.refusal = trial.refusal) trial := by
  refine (Script.ensures_frame job.run trial).mono fun result t hFrame => ?_
  cases result with
  | ok a | error e => exact hFrame

@[simp] theorem ensures_pure (a : α) :
    (pure a : Job ε α).Ensures ok error trial ↔ ok a trial := Iff.rfl

@[simp] theorem ensures_throw (e : ε) :
    (throw e : Job ε α).Ensures ok error trial ↔ error e trial := Iff.rfl

@[simp] theorem ensures_bind (job : Job ε α) (f : α → Job ε β) {ok : β → Trial → Prop} :
    (job >>= f).Ensures ok error trial ↔
      job.Ensures (fun a t => (f a).Ensures ok error t) error trial := by
  rw [Ensures, ExceptT.run_bind, Script.ensures_bind]
  constructor <;>
  · intro h
    refine Script.Ensures.mono h fun result t hResult => ?_
    cases result with
    | ok a | error e => exact hResult

@[simp] theorem ensures_lift (s : Script α) :
    (liftM s : Job ε α).Ensures ok error trial ↔ s.Ensures ok trial := by
  have hLift : (liftM s : Job ε α).run = s >>= fun a => pure (.ok a) := rfl
  rw [Ensures, hLift, Script.ensures_bind]
  rfl

@[simp] theorem ensures_attempt (job : Job ε α) {ok : Except ε α → Trial → Prop}
    {error : ε' → Trial → Prop} :
    (attempt job).Ensures ok error trial ↔
      job.Ensures (fun a => ok (.ok a)) (fun e => ok (.error e)) trial := by
  have hAttempt : (attempt job : Job ε' (Except ε α)).run = job.run >>= fun r => pure (.ok r) := rfl
  rw [Ensures, hAttempt, Script.ensures_bind]
  constructor <;>
  · intro h
    refine Script.Ensures.mono h fun result t hResult => ?_
    cases result with
    | ok a | error e => exact hResult

/-- A job that asks only for changes of some kind. -/
abbrev Asks (P : Change → Prop) (job : Job ε α) : Prop := Script.Asks P job.run

variable {P : Change → Prop}

theorem asks_pure (a : α) : (pure a : Job ε α).Asks P := .done _

theorem asks_throw (e : ε) : (throw e : Job ε α).Asks P := .done _

theorem asks_lift {s : Script α} (h : s.Asks P) : (liftM s : Job ε α).Asks P :=
  h.bind fun _ => .done _

theorem Asks.bind (h : job.Asks P) {f : α → Job ε β} (hNext : ∀ a, (f a).Asks P) :
    (job >>= f).Asks P := by
  refine Script.Asks.bind h fun result => ?_
  cases result with
  | ok a => exact hNext a
  | error e => exact .done _

theorem asks_attempt (h : job.Asks P) : (attempt job : Job ε' (Except ε α)).Asks P :=
  Script.Asks.bind h fun _ => .done _

theorem asks_forM {f : α → Job ε Unit} {items : List α} (h : ∀ a ∈ items, (f a).Asks P) :
    Job.Asks P (items.forM f) := by
  induction items with
  | nil => exact .done _
  | cons first rest ih =>
      obtain ⟨hFirst, hRest⟩ := List.forall_mem_cons.mp h
      exact hFirst.bind fun _ => ih hRest

end Job

end Blueprint

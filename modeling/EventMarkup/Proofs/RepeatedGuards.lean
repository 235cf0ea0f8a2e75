import EventMarkup.Proofs.Grammar
import EventMarkup.Proofs.SinkUse

/-!
# Guards upon guards

A guard around a guard adds nothing: both know the same open constructs, so what the outer one lets
pass the inner one lets pass too. Whatever is asked of a session whose guards are all alike, its
guards are alike afterwards, and neither they nor the answer depend on how many there are
(`Session.act_uniform`, `Session.run_repeated`).

There is one exception. When a scope is left because of a failure, the outermost guard lets the open
constructs be and closes what lies below. Below a single guard that is the sink, but below any other
it is a guard, which complains. `repeated_guards` says that this is the only difference, and
`secondGuard_complains` that it is one.
-/
namespace EventMarkup

/-- What comes of closing a sink under a guard. -/
def Guard.close (g : Guard) (k : Sink) : Outcome Sink Unit :=
  k.close.bind fun k _ =>
    match g.endFault? with
    | none => .done k ()
    | some f => ⟨k, g.endNotices, .error (.order f)⟩

namespace Guard

theorem close_after (g : Guard) (k : Sink) : (g.close k).after = k.close.after := by
  simp only [close, Outcome.bind]
  cases k.close.result with
  | error f => rfl
  | ok u => cases g.endFault? <;> rfl

section
variable {g : Guard} {k : Sink}

theorem close_empty : (close [] k).result = k.close.result := by
  simp only [close, Outcome.bind]
  cases k.close.result <;> rfl

theorem close_of_error {f : Fault} (hk : k.close.result = .error f) :
    (g.close k).result = .error f := by
  simp only [close, Outcome.bind, hk]

theorem close_open (hg : g ≠ []) (hk : k.close.result = .ok ()) :
    (g.close k).result = .error (.order (.unclosed (g.map (·.construct)))) := by
  have hf : g.endFault? = some (.unclosed (g.map (·.construct))) := by
    simp [endFault?, hg]
  simp only [close, Outcome.bind, hk, hf]

end

end Guard

namespace Session

/-- A session under `n` guards that all know the same open constructs. -/
def repeated (n : Nat) (g : Guard) (k : Sink) : Session := ⟨List.replicate n g, k⟩

/-- What comes of an operation on a session under guards that are alike, if their number does not
matter. `op` is the operation on the session with so many guards below the outermost one. -/
def Uniform {α : Type} (op : Nat → Outcome Session α) : Prop :=
  ∃ (g : Guard) (r : Outcome Sink α), ∀ n, op n = r.within (repeated (n + 1) g)

theorem Uniform.map {α β : Type} {op : Nat → Outcome Session α} (h : Uniform op) (f : α → β) :
    Uniform fun n => (op n).map f := by
  obtain ⟨g, r, hop⟩ := h
  refine ⟨g, r.map f, fun n => ?_⟩
  simp only [hop]
  rfl

/-! ## Events -/

section
variable {e : Event} {g : Guard} {k : Sink}

theorem pass_accepted {g' : Guard} (hk : (checksFirst e || k.vocabulary.knows e) = true)
    (hg : g.accept e = .ok g') (n : Nat) :
    pass e k (List.replicate n g) = (k.event e).within (repeated n g') := by
  induction n with
  | zero => rfl
  | succ n ih =>
    simp only [List.replicate_succ, pass, hk, if_true, hg, ih]
    rfl

end

/-- An event under guards that are alike reaches the sink, or the outermost of them keeps it away.
-/
theorem event_uniform (g : Guard) (k : Sink) (e : Event) :
    Uniform fun n => (repeated (n + 1) g k).event e := by
  by_cases hk : (checksFirst e || k.vocabulary.knows e) = true
  · cases hg : g.accept e with
    | ok g' => exact ⟨g', k.event e, fun n => pass_accepted hk hg (n + 1)⟩
    | error f =>
      refine ⟨g, .fail k (.order f), fun n => ?_⟩
      simp only [event, repeated, List.replicate_succ, pass, hk, if_true, hg]
      rfl
  · refine ⟨g, .fail k (k.unknown e.name), fun n => ?_⟩
    simp only [event, repeated, List.replicate_succ, pass, if_neg hk]
    rfl

theorem events_uniform (g : Guard) (k : Sink) (es : List Event) :
    Uniform fun n => (repeated (n + 1) g k).events es := by
  induction es generalizing g k with
  | nil => exact ⟨g, .done k (), fun _ => rfl⟩
  | cons e es ih =>
    obtain ⟨g₁, r, he⟩ := event_uniform g k e
    cases hr : r.result with
    | error f =>
      refine ⟨g₁, ⟨r.after, r.notices, .error f⟩, fun n => ?_⟩
      simp only [events, he, Outcome.bind, Outcome.within, hr]
    | ok u =>
      obtain ⟨g₂, r', hes⟩ := ih g₁ r.after
      refine ⟨g₂, ⟨r'.after, r.notices ++ r'.notices, r'.result⟩, fun n => ?_⟩
      simp only [events, he, Outcome.bind, Outcome.within, hr, hes]

theorem page_uniform (g : Guard) (k : Sink) (readers : List Wiki.BlockReader) (t : String) :
    Uniform fun n => (repeated (n + 1) g k).page readers t := by
  cases hread : Wiki.readBlocks readers (.ofText t) with
  | error f =>
    refine ⟨g, .fail k f, fun n => ?_⟩
    simp only [page, hread]
    rfl
  | ok read =>
    obtain ⟨g', r, hes⟩ := events_uniform g k (Wiki.events read.1)
    refine ⟨g', ⟨r.after, .blocksParsed read.1.length :: r.notices, r.result⟩, fun n => ?_⟩
    simp only [page, hread, Outcome.bind, hes]
    rfl

/-! ## Closing -/

/-- Guards that are alike complain once: the innermost does, and the others pass its complaint on.
-/
theorem closeUnder_replicate (g : Guard) (k : Sink) (n : Nat) :
    closeUnder k (List.replicate (n + 1) g) = (g.close k).within (repeated (n + 1) g) := by
  induction n with
  | zero =>
    simp only [List.replicate_succ, List.replicate_zero, closeUnder, Guard.close, Outcome.bind,
      Outcome.within]
    cases k.close.result with
    | error f => rfl
    | ok u => cases g.endFault? <;> rfl
  | succ n ih =>
    rw [List.replicate_succ, closeUnder, ih]
    simp only [Guard.close, Outcome.bind, Outcome.within]
    cases hr : k.close.result with
    | error f => rfl
    | ok u => cases g.endFault? <;> simp [Outcome.done, repeated, List.replicate_succ]

/-- When a scope is left after a failure, one guard fewer is closed: a second guard complains, a
single one does not. -/
theorem leave_repeated (g : Guard) (k : Sink) :
    (repeated 1 g k).leave true = k.close.within (repeated 1 g) ∧
      ∀ n, (repeated (n + 2) g k).leave true = (g.close k).within (repeated (n + 2) g) := by
  refine ⟨rfl, fun n => ?_⟩
  have hbelow := closeUnder_replicate g k n
  simp only [leave, repeated, List.replicate_succ] at hbelow ⊢
  rw [hbelow]
  rfl

theorem leave_after (g : Guard) (k : Sink) (n : Nat) (failed : Bool) :
    ((repeated (n + 1) g k).leave failed).after = repeated (n + 1) g k.close.after := by
  obtain ⟨hsingle, hseveral⟩ := leave_repeated g k
  have hclose : ((repeated (n + 1) g k).leave false).after = repeated (n + 1) g k.close.after := by
    rw [← g.close_after]
    exact congrArg Outcome.after (closeUnder_replicate g k n)
  cases failed with
  | false => exact hclose
  | true =>
    cases n with
    | zero => rw [hsingle]; rfl
    | succ n => rw [hseveral, Outcome.within, g.close_after]

/-! ## Whole runs -/

/-- Whatever is asked of a session under guards that are alike, other than to leave its scope after
a failure, the answer and what it leaves behind do not depend on the number of guards. -/
theorem act_uniform (g : Guard) (k : Sink) {a : Action} (ha : a ≠ .leave true) :
    Uniform fun n => (repeated (n + 1) g k).act a := by
  cases a with
  | event e => exact (event_uniform g k e).map _
  | page t => exact (page_uniform g k _ t).map _
  | close => exact Uniform.map ⟨g, g.close k, closeUnder_replicate g k⟩ _
  | leave failed =>
    cases failed with
    | true => exact absurd rfl ha
    | false => exact Uniform.map ⟨g, g.close k, closeUnder_replicate g k⟩ _
  | write t => exact ⟨g, (k.write t).map fun _ => .nothing, fun _ => rfl⟩
  | flush => exact ⟨g, k.flush.map fun _ => .nothing, fun _ => rfl⟩
  | consumeHead => exact ⟨g, k.consumeHead.map .text, fun _ => rfl⟩
  | value => exact ⟨g, ⟨k, [], k.value.map .text⟩, fun _ => rfl⟩
  | headText => exact ⟨g, ⟨k, [], k.headText.map .text⟩, fun _ => rfl⟩
  | openConstructs => exact ⟨g, .done k (.names g.names), fun _ => rfl⟩
  | resetState => exact ⟨g, .done k.resetState .nothing, fun _ => rfl⟩
  | closed => exact ⟨g, .done k (.truth k.closed), fun _ => rfl⟩
  | state => exact ⟨g, .done k (.state k.state), fun _ => rfl⟩
  | options => exact ⟨g, .done k (.options k.options), fun _ => rfl⟩
  | enter => exact ⟨g, .done k (.session "ValidatingSink"), fun _ => rfl⟩
  | unknown name => exact ⟨g, .fail k (k.unknown name), fun _ => rfl⟩

/-- What a run leaves behind does not depend on the number of guards. -/
theorem run_repeated (g : Guard) (k : Sink) (as : List Action) :
    ∃ (g' : Guard) (k' : Sink), ∀ n, (repeated (n + 1) g k).run as = repeated (n + 1) g' k' := by
  induction as generalizing g k with
  | nil => exact ⟨g, k, fun _ => rfl⟩
  | cons a as ih =>
    by_cases ha : a = .leave true
    · obtain ⟨g', k', hrest⟩ := ih g k.close.after
      refine ⟨g', k', fun n => ?_⟩
      have hafter : ((repeated (n + 1) g k).act a).after = repeated (n + 1) g k.close.after := by
        rw [ha]
        exact leave_after g k n true
      rw [run, hafter, hrest]
    · obtain ⟨g₁, r, hact⟩ := act_uniform g k ha
      obtain ⟨g', k', hrest⟩ := ih g₁ r.after
      refine ⟨g', k', fun n => ?_⟩
      have hafter : ((repeated (n + 1) g k).act a).after = repeated (n + 1) g₁ r.after :=
        congrArg Outcome.after (hact n)
      rw [run, hafter, hrest]

/-- Whether an action leaves the scope of a session after a failure while constructs are open, over
a sink that can be closed. -/
def Abandons (s : Session) (a : Action) : Prop :=
  a = .leave true ∧ s.openConstructs ≠ .ok [] ∧ s.sink.close.result = .ok ()

section
variable {g : Guard} {k : Sink} {a : Action}

theorem abandons_repeated (h : (repeated 1 g k).Abandons a) (n : Nat) :
    ((repeated (n + 2) g k).act a).result =
        .error (.order (.unclosed (g.map (·.construct)))) ∧
      ((repeated 1 g k).act a).result = .ok .nothing := by
  obtain ⟨rfl, hopen, hk⟩ := h
  obtain ⟨hsingle, hseveral⟩ := leave_repeated g k
  have hg : g ≠ [] := fun hnil => hopen ((openConstructs_nil_iff rfl).mpr hnil)
  have hclosed : k.close.result = .ok () := hk
  constructor
  · rw [act, hseveral, Outcome.map, Outcome.within, Guard.close_open hg hclosed]
    rfl
  · rw [act, hsingle, Outcome.map, Outcome.within, hclosed]
    rfl

/-- Without open constructs, or over a sink that cannot be closed, a guard has nothing of its own to
complain about. -/
theorem close_not_abandoned (h : ¬(repeated 1 g k).Abandons (.leave true)) :
    (g.close k).result = k.close.result := by
  cases hk : k.close.result with
  | error f => exact Guard.close_of_error hk
  | ok u =>
    have hg : g = [] := by
      by_contra hne
      exact h ⟨rfl, fun hnil => hne ((openConstructs_nil_iff rfl).mp hnil), hk⟩
    rw [hg, Guard.close_empty, hk]

/-- Any other action is answered alike by several guards and by one. -/
theorem act_repeated {n : Nat} (h : ¬(0 < n ∧ (repeated 1 g k).Abandons a)) :
    ((repeated (n + 1) g k).act a).result = ((repeated 1 g k).act a).result := by
  by_cases ha : a = .leave true
  · subst ha
    -- one guard fewer is closed, so the case of a single one stands apart
    cases n with
    | zero => rfl
    | succ n =>
      obtain ⟨hsingle, hseveral⟩ := leave_repeated g k
      have hsame := close_not_abandoned fun habandons => h ⟨Nat.succ_pos n, habandons⟩
      simp only [act, hsingle, hseveral, Outcome.map, Outcome.within, hsame]
  · obtain ⟨g', r, hact⟩ := act_uniform g k ha
    have hmany : ((repeated (n + 1) g k).act a).result = r.result :=
      congrArg Outcome.result (hact n)
    have hone : ((repeated 1 g k).act a).result = r.result := congrArg Outcome.result (hact 0)
    rw [hmany, hone]

end

end Session

/-- **Guards upon guards.** After whatever was asked of them, a session under several fresh guards
and one under a single guard have the same sink and the same open constructs, and leaving their
scope closes them. They answer all further actions alike, with one exception: when the scope is left
after a failure while constructs are open, the single guard lets them be, and among several guards
one complains about them. -/
theorem repeated_guards (k : Sink) (n : Nat) (as : List Session.Action) (a : Session.Action) :
    let many := (Session.start k (n + 1)).run as
    let one := (Session.start k 1).run as
    many.sink = one.sink ∧ many.openConstructs = one.openConstructs ∧
      (∀ failed, (many.act (.leave failed)).after.sink.closed = true) ∧
      ((many.act a).result = (one.act a).result ↔ ¬(0 < n ∧ one.Abandons a)) ∧
      (0 < n ∧ one.Abandons a →
        (∃ cs, (many.act a).result = .error (.order (.unclosed cs))) ∧
          (one.act a).result = .ok .nothing) := by
  obtain ⟨g, k', hrun⟩ := Session.run_repeated [] k as
  have hmany : (Session.start k (n + 1)).run as = .repeated (n + 1) g k' := hrun n
  have hone : (Session.start k 1).run as = .repeated 1 g k' := hrun 0
  rw [hmany, hone]
  have hcomplains : 0 < n ∧ (Session.repeated 1 g k').Abandons a →
      (∃ cs, ((Session.repeated (n + 1) g k').act a).result = .error (.order (.unclosed cs))) ∧
        ((Session.repeated 1 g k').act a).result = .ok .nothing := by
    rintro ⟨hn, habandons⟩
    obtain ⟨m, rfl⟩ := Nat.exists_eq_succ_of_ne_zero (Nat.ne_of_gt hn)
    obtain ⟨hfault, hok⟩ := Session.abandons_repeated habandons m
    exact ⟨⟨_, hfault⟩, hok⟩
  refine ⟨rfl, rfl, fun failed => ?_, ⟨fun h habandons => ?_, Session.act_repeated⟩, hcomplains⟩
  · have hafter : ((Session.repeated (n + 1) g k').act (.leave failed)).after =
        .repeated (n + 1) g k'.close.after := Session.leave_after g k' n failed
    rw [hafter, Sink.close_after]
    rfl
  · obtain ⟨⟨cs, hfault⟩, hok⟩ := hcomplains habandons
    rw [h, hok] at hfault
    cases hfault

/-- Two guards with a paragraph open, left after a failure: the inner one complains. A single guard
does not. -/
theorem secondGuard_complains :
    let s (n : Nat) :=
      (Session.start (.inMemory .usual) n).run [.event (.elementStart .paragraph ∅)]
    ((s 2).act (.leave true)).result = .error (.order (.unclosed [.element .paragraph])) ∧
      ((s 1).act (.leave true)).result = .ok .nothing := by
  exact ⟨rfl, rfl⟩

end EventMarkup

import Mathlib.Order.Defs.Unbundled
import WorkflowArtifacts.Conversion.Run

/-!
# Following a computation step by step

A computation of a conversion is a function of the state, which it leaves behind even where it stops
at a fault. The equations here say what each basic step does to a state, so that later proofs never
look inside the monad.

## Two ways of following

Where the outcome is known, the steps are followed forwards: `bind_ok` and `bind_error` move on to
the next step, and `exists_of_bind_ok` takes a success apart into the successes of its steps.

Where it does not matter, `Leaves R` is used: whatever the outcome, the state left behind is related
by `R` to the state that was found. For a preorder `R` this passes from the steps to the whole, also
through loops and through the handling of faults, which is how an invariant survives a run that may
stop anywhere.
-/

namespace WorkflowArtifacts.Conversion

open Build

variable {α β : Type}

/-! ## Equations -/

theorem bind_apply (action : ConversionM α) (f : α → ConversionM β) (st : State) :
    (action >>= f) st = match action st with
      | (.ok a, next) => f a next
      | (.error fault, next) => (.error fault, next) := by
  rcases h : action st with ⟨fault | a, next⟩
  · simp only [bind, ExceptT.bind, ExceptT.mk, ExceptT.bindCont, StateT.bind, h]
    rfl
  · simp only [bind, ExceptT.bind, ExceptT.mk, ExceptT.bindCont, StateT.bind, h]

theorem bind_ok {action : ConversionM α} {st next : State} {a : α}
    (h : action st = (.ok a, next)) (f : α → ConversionM β) : (action >>= f) st = f a next := by
  rw [bind_apply, h]

theorem bind_error {action : ConversionM α} {st next : State} {fault : Fault}
    (h : action st = (.error fault, next)) (f : α → ConversionM β) :
    (action >>= f) st = (.error fault, next) := by
  rw [bind_apply, h]

/-- A success of two steps is a success of the first and then one of the second. -/
theorem exists_of_bind_ok {action : ConversionM α} {f : α → ConversionM β} {st last : State} {b : β}
    (h : (action >>= f) st = (.ok b, last)) :
    ∃ a next, action st = (.ok a, next) ∧ f a next = (.ok b, last) := by
  rw [bind_apply] at h
  rcases hstep : action st with ⟨fault | a, next⟩
  · rw [hstep] at h
    cases h
  · rw [hstep] at h
    exact ⟨a, next, rfl, h⟩

theorem forM_singleton (action : α → ConversionM PUnit) (x : α) :
    [x].forM action = action x := by
  simp

theorem forM_append (action : α → ConversionM PUnit) (first second : List α) :
    (first ++ second).forM action = first.forM action >>= fun _ ↦ second.forM action :=
  List.forM_append

theorem pure_apply (a : α) (st : State) : (pure a : ConversionM α) st = (.ok a, st) := rfl

theorem liftM_build_apply (action : Build α) (st : State) :
    (liftM action : ConversionM α) st
      = (.ok (action st.store).1, { st with store := (action st.store).2 }) := rfl

theorem liftM_checkedBuild_apply (action : CheckedBuild α) (st : State) :
    (liftM action : ConversionM α) st
      = ((action.run st.store).1, { st with store := (action.run st.store).2 }) := rfl

theorem tryCatch_apply (action : ConversionM α) (handle : Fault → ConversionM α) (st : State) :
    (tryCatch action handle) st = match action st with
      | (.ok a, next) => (.ok a, next)
      | (.error fault, next) => handle fault next := by
  rcases h : action st with ⟨fault | a, next⟩
  · simp only [tryCatch, tryCatchThe, MonadExceptOf.tryCatch, ExceptT.tryCatch, ExceptT.mk, bind,
      StateT.bind, h]
  · simp only [tryCatch, tryCatchThe, MonadExceptOf.tryCatch, ExceptT.tryCatch, ExceptT.mk, bind,
      StateT.bind, h]
    rfl

theorem validated_ok {c : RecordClass} {j document : Json} (h : c.validate j = .ok document)
    (st : State) : (liftM (validated c j) : ConversionM Json) st = (.ok document, st) := by
  rw [liftM_checkedBuild_apply, validated, h]
  rfl

theorem validated_error {c : RecordClass} {j : Json} {failure : Schema.Failure}
    (h : c.validate j = .error failure) (st : State) :
    (liftM (validated c j) : ConversionM Json) st = (.error (.invalid failure), st) := by
  rw [liftM_checkedBuild_apply, validated, h]
  rfl

theorem takeToken_apply (st : State) :
    takeToken st = (.ok st.tokens.next.1, { st with tokens := st.tokens.next.2 }) := rfl

theorem putArtifact_apply (key : String) (item : Item) (st : State) :
    putArtifact key item st = (.ok (), { st with
      conversion := { st.conversion with artifacts := st.conversion.artifacts.put key item } }) :=
  rfl

theorem note_apply (level : LogLevel) (source : LogSource) (message : String) (st : State) :
    note level source message st
      = (.ok (), { st with log := st.log ++ [.record level source message] }) := rfl

theorem current_apply (st : State) : current st = (.ok st.conversion, st) := rfl

theorem fetch_apply {α : Type} [Stored α] (r : Ref α) (s : Store) : fetch r s = (s.get r, s) := rfl

theorem update_apply {α : Type} [Stored α] (r : Ref α) (f : α → α) (s : Store) :
    update r f s = ((), s.modify r f) := rfl

theorem requireArtifact_apply {st : State} {key : String} {item : Item}
    (hget : st.conversion.artifacts.get key = item) (hpresent : item.isAbsent = false) :
    requireArtifact key st = (.ok item, st) := by
  have hartifact : artifact key st = (.ok item, st) := by
    rw [← hget]
    rfl
  rw [requireArtifact, bind_ok hartifact, hpresent]
  rfl

theorem currentDefinition_apply (st : State) :
    currentDefinition st = (.ok (st.store.get st.conversion.definition), st) := rfl

theorem requireProcess_apply {st : State} {process : Ref Process}
    (h : st.conversion.process = some process) (part : String) :
    requireProcess part st = (.ok process, st) := by
  rw [requireProcess, bind_ok (current_apply st), h]
  rfl

theorem requireProcess_of_none {st : State} (h : st.conversion.process = none) (part : String) :
    requireProcess part st = (.error (.noPart Json.null.nature part), st) := by
  rw [requireProcess, bind_ok (current_apply st), h]
  rfl

theorem elementsOf_apply {st : State} {process : Ref Process} {elements : List (Ref Element)}
    (h : (st.store.get process).elements = some elements) :
    elementsOf process st = (.ok elements, st) := by
  rw [elementsOf, bind_ok (liftM_build_apply _ _), fetch_apply, h]
  rfl

/-- A malformed process has no elements to go through. -/
theorem elementsOf_of_none {st : State} {process : Ref Process}
    (h : (st.store.get process).elements = none) :
    elementsOf process st = (.error (.notIterable Json.null.nature), st) := by
  rw [elementsOf, bind_ok (liftM_build_apply _ _), fetch_apply, h]
  rfl

theorem graphProblems_apply {st : State} {process : Ref Process} {elements : List (Ref Element)}
    (hprocess : st.conversion.process = some process)
    (helements : (st.store.get process).elements = some elements) :
    graphProblems st = (.ok (Graph.problems (elements.map st.store.get)), st) := by
  rw [graphProblems, bind_ok (requireProcess_apply hprocess _),
    bind_ok (elementsOf_apply helements)]
  rfl

theorem graphProblems_of_malformed {st : State} {process : Ref Process}
    (hprocess : st.conversion.process = some process)
    (helements : (st.store.get process).elements = none) :
    graphProblems st = (.error (.notIterable Json.null.nature), st) := by
  rw [graphProblems, bind_ok (requireProcess_apply hprocess _),
    bind_error (elementsOf_of_none helements)]

theorem graphProblems_of_none {st : State} (h : st.conversion.process = none) :
    graphProblems st = (.error (.noPart Json.null.nature "flow_elements"), st) := by
  rw [graphProblems, bind_error (requireProcess_of_none h _)]

/-! ## Whatever the outcome -/

/-- Whatever the outcome of a computation, the state it leaves is related to the one it found. -/
def Leaves (R : State → State → Prop) (action : ConversionM α) : Prop :=
  ∀ st, R st (action st).2

namespace Leaves

variable {R : State → State → Prop}

theorem mono {S : State → State → Prop} (hsub : ∀ st next, R st next → S st next)
    {action : ConversionM α} (h : Leaves R action) : Leaves S action :=
  fun st ↦ hsub _ _ (h st)

/-- A computation that only reads leaves everything as it was. -/
theorem of_snd_eq [Std.Refl R] {action : ConversionM α} (h : ∀ st, (action st).2 = st) :
    Leaves R action := by
  intro st
  rw [h st]
  exact Std.Refl.refl st

theorem pure [Std.Refl R] (a : α) : Leaves R (pure a : ConversionM α) :=
  of_snd_eq fun _ ↦ rfl

theorem throw [Std.Refl R] (fault : Fault) : Leaves R (throw fault : ConversionM α) :=
  of_snd_eq fun _ ↦ rfl

theorem ofExcept [Std.Refl R] (outcome : Except Fault α) :
    Leaves R (ExceptT.mk (Pure.pure outcome) : ConversionM α) :=
  of_snd_eq fun _ ↦ rfl

theorem current [Std.Refl R] : Leaves R current := of_snd_eq fun _ ↦ rfl

theorem requireProcess [Std.Refl R] (part : String) : Leaves R (requireProcess part) := by
  refine of_snd_eq fun st ↦ ?_
  cases hprocess : st.conversion.process with
  | none => rw [requireProcess_of_none hprocess]
  | some process => rw [requireProcess_apply hprocess]

theorem elementsOf [Std.Refl R] (process : Ref Process) : Leaves R (elementsOf process) := by
  refine of_snd_eq fun st ↦ ?_
  cases helements : (st.store.get process).elements with
  | none => rw [elementsOf_of_none helements]
  | some elements => rw [elementsOf_apply helements]

theorem bind [IsTrans State R] {action : ConversionM α} {f : α → ConversionM β}
    (h : Leaves R action) (hf : ∀ a, Leaves R (f a)) : Leaves R (action >>= f) := by
  intro st
  have hfirst := h st
  rw [bind_apply]
  rcases hstep : action st with ⟨fault | a, next⟩
  · rw [hstep] at hfirst
    exact hfirst
  · rw [hstep] at hfirst
    exact IsTrans.trans _ _ _ hfirst (hf a next)

theorem tryCatch [IsTrans State R] {action : ConversionM α} {handle : Fault → ConversionM α}
    (h : Leaves R action) (hhandle : ∀ fault, Leaves R (handle fault)) :
    Leaves R (tryCatch action handle) := by
  intro st
  have hfirst := h st
  rw [tryCatch_apply]
  rcases hstep : action st with ⟨fault | a, next⟩
  · rw [hstep] at hfirst
    exact IsTrans.trans _ _ _ hfirst (hhandle fault next)
  · rw [hstep] at hfirst
    exact hfirst

/-- What every round of a loop keeps to, the loop keeps to. -/
theorem forM [IsPreorder State R] {xs : List α} {f : α → ConversionM PUnit}
    (h : ∀ x ∈ xs, Leaves R (f x)) : Leaves R (xs.forM f) := by
  induction xs with
  | nil => exact pure PUnit.unit
  | cons x xs ih =>
    change Leaves R (f x >>= fun _ ↦ xs.forM f)
    exact bind (h x List.mem_cons_self) fun _ ↦ ih fun y hy ↦ h y (List.mem_cons_of_mem x hy)

/-- What the supply of every single element keeps to, the supply of all keeps to. -/
theorem supplyAll [IsPreorder State R] {process : Ref Process}
    (h : ∀ e, Leaves R (supplyOne process e)) (elements : List (Ref Element)) :
    Leaves R (supplyAll process elements) := by
  induction elements with
  | nil => exact pure _
  | cons e rest ih => exact bind (h e) fun _ ↦ bind ih fun _ ↦ pure _

theorem supplyStartForms [IsPreorder State R] (h : ∀ process e, Leaves R (supplyOne process e)) :
    Leaves R supplyStartForms := by
  refine bind current fun conversion ↦ ?_
  split
  · exact throw _
  · next process _ => exact bind (elementsOf process) (supplyAll (h process))

theorem completeStartForms [IsPreorder State R] (hsupply : Leaves R Conversion.supplyStartForms)
    (hnote : ∀ message, Leaves R (note .warning .artifactSetup message)) :
    Leaves R Listener.completeStartForms := by
  refine bind hsupply fun supplied ↦ ?_
  dsimp only
  split
  · exact bind (requireProcess _) fun _ ↦ bind (of_snd_eq fun _ ↦ rfl) fun _ ↦ hnote _
  · exact pure _

/-- Building is judged by what it does to the store. -/
theorem build {action : Build α}
    (h : ∀ st : State, R st { st with store := (action st.store).2 }) :
    Leaves R (liftM action : ConversionM α) := h

theorem checkedBuild {action : CheckedBuild α}
    (h : ∀ st : State, R st { st with store := (action.run st.store).2 }) :
    Leaves R (liftM action : ConversionM α) := h

end Leaves

/-! ## Reading and logging -/

/-- Whether nothing but the log has changed. -/
structure OnlyLogs (st next : State) : Prop where
  /-- The records are the same. -/
  store : next.store = st.store
  /-- The conversion is the same. -/
  conversion : next.conversion = st.conversion
  /-- The tokens are the same. -/
  tokens : next.tokens = st.tokens

instance : IsPreorder State OnlyLogs where
  refl _ := ⟨rfl, rfl, rfl⟩
  trans _ _ _ h h' :=
    ⟨h'.store.trans h.store, h'.conversion.trans h.conversion, h'.tokens.trans h.tokens⟩

theorem note_onlyLogs (level : LogLevel) (source : LogSource) (message : String) :
    Leaves OnlyLogs (note level source message) :=
  fun _ ↦ ⟨rfl, rfl, rfl⟩

theorem fetch_onlyLogs [Stored α] (r : Ref α) : Leaves OnlyLogs (liftM (fetch r) : ConversionM α) :=
  .of_snd_eq fun _ ↦ rfl

theorem currentDefinition_onlyLogs : Leaves OnlyLogs currentDefinition := .of_snd_eq fun _ ↦ rfl

theorem requireProcess_onlyLogs (part : String) : Leaves OnlyLogs (requireProcess part) :=
  .requireProcess part

theorem requireArtifact_onlyLogs (key : String) : Leaves OnlyLogs (requireArtifact key) := by
  refine .bind (.bind .current fun _ ↦ .pure _) fun item ↦ ?_
  split
  · exact .throw _
  · exact .pure item

theorem elementsOf_onlyLogs (process : Ref Process) : Leaves OnlyLogs (elementsOf process) :=
  .elementsOf process

theorem graphProblems_onlyLogs : Leaves OnlyLogs graphProblems :=
  .bind (requireProcess_onlyLogs _) fun process ↦
    .bind (elementsOf_onlyLogs process) fun _ ↦
      .bind (.of_snd_eq fun _ ↦ rfl) fun _ ↦ .pure _

/-- The check of the graph changes nothing. -/
theorem checkGraph_onlyLogs : Leaves OnlyLogs checkGraph := by
  refine .bind graphProblems_onlyLogs fun problems ↦ ?_
  split
  · exact note_onlyLogs _ _ _
  · exact .pure _

/-- Neither does the end of a run by a fault. -/
theorem abandon_onlyLogs (fault : Fault) : Leaves OnlyLogs (abandon fault) := by
  refine .bind currentDefinition_onlyLogs fun definition ↦ ?_
  dsimp only
  split
  · exact .bind (note_onlyLogs _ _ _) fun _ ↦ .throw _
  · exact .bind (note_onlyLogs _ _ _) fun _ ↦ .throw _

/-! ## Invariants -/

/-- Whether what is true of the first state is true of the second. -/
def Keeps (P : State → Prop) (st next : State) : Prop := P st → P next

instance (P : State → Prop) : IsPreorder State (Keeps P) where
  refl _ h := h
  trans _ _ _ hfirst hsecond h := hsecond (hfirst h)

end WorkflowArtifacts.Conversion

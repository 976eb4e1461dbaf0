-- Requests of the service that are served at once. Whatever one of them does between its calls
-- touches the store as little as what the others do, so what comes of them all is what comes of
-- them one after another, in the order in which the store was called.
import Mathlib.Data.Fintype.Basic
import Mathlib.Data.Fintype.EquivFin
import Mathlib.Logic.Function.Basic
import Workspaces.Proofs.Service.Results
import Workspaces.Proofs.Store.Uniqueness
import Workspaces.Proofs.Workspace.Edits

namespace Workspaces

/-! ## Errands -/

/-- What the service can be asked to do with one workspace. -/
inductive Errand where
  | create (d : Draft)
  | get (id : Uuid)
  | update (id : Uuid) (r : Revision)
  | delete (id : Uuid)
  deriving DecidableEq, Repr

namespace Errand

/-- The workspace that is told, if one is, or the fault. -/
abbrev Answer := Except Fault (Option Workspace)

/-- What is looked at first: whether the fields that are given keep their rules. -/
def check : Errand → Except Fault Unit
  | create d => d.check
  | update _ r => r.check
  | get _ | delete _ => .ok ()

/-- The errand as the service does it. -/
def task (o : Occasion) : Errand → Dialogue Answer
  | create d => (Service.create o d).map fun answer => answer.map some
  | get id => (Service.get id).map fun answer => answer.map some
  | update id r => (Service.update o.now id r).map fun answer => answer.map some
  | delete id => (Service.delete id).map fun answer => answer.map fun _ => none

/-- An errand that is refused never calls the store. -/
theorem task_of_refused (e : Errand) (o : Occasion) (fault : Fault) (h : e.check = .error fault) :
    e.task o = .answer (.error fault) := by
  cases e with
  | create d =>
    unfold check at h
    simp [task, Service.create, h, Dialogue.map, Except.map]
  | get id => cases h
  | update id r =>
    unfold check at h
    simp [task, Service.update, h, Dialogue.map, Except.map]
  | delete id => cases h

/-- Any other calls the store once, and its answer is what it makes of the reply. -/
theorem task_of_checked (e : Errand) (o : Occasion) (h : e.check = .ok ()) :
    ∃ (c : StoreCall) (f : Except Fault c.Reply → Answer),
      e.task o = .call c fun reply => .answer (f reply) := by
  cases e with
  | create d =>
    unfold check at h
    simp only [task, Service.create, h, Dialogue.map]
    exact ⟨_, _, rfl⟩
  | get id => exact ⟨_, _, rfl⟩
  | update id r =>
    unfold check at h
    simp only [task, Service.update, h]
    split
    · exact ⟨_, _, rfl⟩
    · exact ⟨_, _, rfl⟩
  | delete id =>
    refine ⟨.delete id, fun reply =>
      reply.bind fun found => if found then .ok none else .error .noWorkspace, ?_⟩
    simp only [task, Service.delete, Dialogue.map]
    congr 1
    funext reply
    rcases reply with fault | _ | _ <;> rfl

end Errand

/-! ## Many at once -/

/-- How far the service has come with an errand. -/
inductive Phase where
  | received
  | checked
  /-- The clock was read and an id drawn, and so much of the dialogue is still ahead. -/
  | talking (rest : Dialogue Errand.Answer)
  | answered (answer : Errand.Answer)

/-- Errands under way, and the store that they share. -/
structure Scene (ι : Type) where
  store : Store
  phase : ι → Phase
  /-- Whose calls the store has carried out, in order. -/
  callers : List ι

namespace Scene

variable {ι : Type} [DecidableEq ι]

/-- Nothing is done yet. -/
def opening (s : Store) : Scene ι := ⟨s, fun _ => .received, []⟩

/-- One errand gets into another phase. -/
def enter (t : Scene ι) (i : ι) (p : Phase) : Scene ι :=
  { t with phase := Function.update t.phase i p }

variable (errand : ι → Errand) (occasion : ι → Occasion)

/-- The next step of one errand: its check, the reading of the clock with the drawing of an id, a
call of the store, or the answer. -/
def step (t : Scene ι) (i : ι) : Scene ι :=
  match t.phase i with
  | .received =>
    match (errand i).check with
    | .error fault => t.enter i (.talking (.answer (.error fault)))
    | .ok () => t.enter i .checked
  | .checked => t.enter i (.talking ((errand i).task (occasion i)))
  | .talking (.call c next) =>
    { t.enter i (.talking (next (c.run t.store).1)) with
      store := (c.run t.store).2
      callers := t.callers ++ [i] }
  | .talking (.answer a) => t.enter i (.answered a)
  | .answered _ => t

/-- The steps of an interleaving, which tells whose step is next each time. -/
def play (t : Scene ι) (interleaving : List ι) : Scene ι :=
  interleaving.foldl (step errand occasion) t

end Scene

/-! ## One after another -/

namespace Dialogue

variable {α : Type}

/-- Dialogues held one after another: their answers, and the store after the last. -/
def runEach : List (Dialogue α) → Store → List α × Store
  | [], s => ([], s)
  | d :: ds, s =>
    let (a, s) := d.run Outage.none s
    let (as, s) := runEach ds s
    (a :: as, s)

theorem runEach_cons (d : Dialogue α) (ds : List (Dialogue α)) (s : Store) :
    runEach (d :: ds) s = ((d.run Outage.none s).1 :: (runEach ds (d.run Outage.none s).2).1,
      (runEach ds (d.run Outage.none s).2).2) := rfl

theorem runEach_append (ds es : List (Dialogue α)) (s : Store) :
    runEach (ds ++ es) s = ((runEach ds s).1 ++ (runEach es (runEach ds s).2).1,
      (runEach es (runEach ds s).2).2) := by
  induction ds generalizing s with
  | nil => rfl
  | cons d ds ih =>
    rw [List.cons_append, runEach_cons, runEach_cons, ih]
    rfl

theorem runEach_concat (ds : List (Dialogue α)) (d : Dialogue α) (s : Store) :
    runEach (ds ++ [d]) s = ((runEach ds s).1 ++ [(d.run Outage.none (runEach ds s).2).1],
      (d.run Outage.none (runEach ds s).2).2) :=
  runEach_append ds [d] s

theorem length_runEach (ds : List (Dialogue α)) (s : Store) :
    (runEach ds s).1.length = ds.length := by
  induction ds generalizing s with
  | nil => rfl
  | cons d ds ih => rw [runEach_cons, List.length_cons, List.length_cons, ih]

/-- Dialogues that only answer can be left out. -/
theorem runEach_of_idle {ι : Type} [DecidableEq ι] (dialogue : ι → Dialogue α) (answer : ι → α)
    (callers order : List ι) (s s' : Store)
    (hidle : ∀ i ∈ order, i ∉ callers → dialogue i = .answer (answer i))
    (h : runEach ((order.filter (· ∈ callers)).map dialogue) s =
      ((order.filter (· ∈ callers)).map answer, s')) :
    runEach (order.map dialogue) s = (order.map answer, s') := by
  induction order generalizing s with
  | nil => exact h
  | cons i order ih =>
    have hrest : ∀ j ∈ order, j ∉ callers → dialogue j = .answer (answer j) :=
      fun j hj => hidle j (List.mem_cons_of_mem i hj)
    rw [List.map_cons, List.map_cons, runEach_cons]
    by_cases hi : i ∈ callers
    · rw [List.filter_cons_of_pos (by simpa using hi), List.map_cons, List.map_cons,
        runEach_cons] at h
      obtain ⟨hanswers, hstore⟩ := Prod.ext_iff.1 h
      obtain ⟨hfirst, hothers⟩ := List.cons.inj hanswers
      rw [ih _ hrest (Prod.ext hothers hstore), hfirst]
    · rw [List.filter_cons_of_neg (by simpa using hi)] at h
      rw [hidle i List.mem_cons_self hi]
      change (answer i :: (runEach (order.map dialogue) s).1,
        (runEach (order.map dialogue) s).2) = _
      rw [ih s hrest h]

end Dialogue

/-! ## What an interleaving preserves -/

/-- What the errand is told in the end, once that is settled. -/
def Phase.told? : Phase → Option Errand.Answer
  | talking (.answer a) | answered a => some a
  | _ => none

/-- How many steps lie behind an errand, at the most. -/
def Phase.rank : Phase → Nat
  | received => 0
  | checked => 1
  | talking (.call ..) => 2
  | talking (.answer _) => 3
  | answered _ => 4

theorem Phase.answered_of_rank (p : Phase) (h : 4 ≤ p.rank) : ∃ a, p = .answered a := by
  cases p with
  | answered a => exact ⟨a, rfl⟩
  | received | checked => simp [rank] at h
  | talking rest => cases rest <;> simp [rank] at h

/-- The phases of an errand, by whether the store was called for it. -/
inductive Stage (e : Errand) (o : Occasion) : (called : Bool) → Phase → Prop
  | received : Stage e o false .received
  | checked (check : e.check = .ok ()) : Stage e o false .checked
  | ready {rest : Dialogue Errand.Answer} (check : e.check = .ok ()) (ahead : rest = e.task o) :
      Stage e o false (.talking rest)
  | refused {fault : Fault} (check : e.check = .error fault) :
      Stage e o false (.talking (.answer (.error fault)))
  | dismissed {fault : Fault} (check : e.check = .error fault) :
      Stage e o false (.answered (.error fault))
  | replied (a : Errand.Answer) : Stage e o true (.talking (.answer a))
  | answered (a : Errand.Answer) : Stage e o true (.answered a)

/-- An errand for which the store was never called is told that it is refused, if anything. -/
theorem Stage.refusal {e : Errand} {o : Occasion} {a : Errand.Answer}
    (h : Stage e o false (.answered a)) : e.task o = .answer a := by
  cases h with
  | dismissed check => exact e.task_of_refused o _ check

namespace Scene

variable {ι : Type} [DecidableEq ι] (errand : ι → Errand) (occasion : ι → Occasion)

/-- What an interleaving that began with a store has made of it is what the errands that called it
make of it one after another, and these have been told the same. -/
structure Serial (s : Store) (t : Scene ι) : Prop where
  nodup : t.callers.Nodup
  stage : ∀ i, Stage (errand i) (occasion i) (decide (i ∈ t.callers)) (t.phase i)
  told : t.callers.map (fun i => (t.phase i).told?) =
    (Dialogue.runEach (t.callers.map fun i => (errand i).task (occasion i)) s).1.map some
  store : t.store =
    (Dialogue.runEach (t.callers.map fun i => (errand i).task (occasion i)) s).2

variable {errand occasion} {s : Store} {t : Scene ι}

theorem serial_opening (s : Store) : Serial errand occasion s (opening s) where
  nodup := List.nodup_nil
  stage i := by
    simp only [opening, List.not_mem_nil, decide_false]
    exact .received
  told := rfl
  store := rfl

theorem phase_enter (t : Scene ι) (i j : ι) (p : Phase) :
    (t.enter i p).phase j = if j = i then p else t.phase j := by
  unfold enter
  simp only [Function.update_apply]

/-- A step that does not call the store does not change what an errand has been told. -/
theorem Serial.enter (h : Serial errand occasion s t) (i : ι) (p : Phase)
    (hstage : Stage (errand i) (occasion i) (decide (i ∈ t.callers)) p)
    (htold : i ∈ t.callers → p.told? = (t.phase i).told?) :
    Serial errand occasion s (t.enter i p) := by
  refine ⟨h.nodup, fun j => ?_, ?_, h.store⟩
  · rw [phase_enter]
    split
    · rename_i hj
      subst hj
      exact hstage
    · exact h.stage j
  · refine Eq.trans (List.map_congr_left fun j hj => ?_) h.told
    rw [phase_enter]
    split
    · rename_i heq
      subst heq
      exact htold hj
    · rfl

/-- A call of the store adds its errand to the end of those that called it. -/
theorem Serial.call (h : Serial errand occasion s t) (i : ι) (c : StoreCall)
    (f : Except Fault c.Reply → Errand.Answer) (hi : i ∉ t.callers)
    (htask : (errand i).task (occasion i) = .call c fun reply => .answer (f reply)) :
    Serial errand occasion s
      { t.enter i (.talking (.answer (f (c.run t.store).1))) with
        store := (c.run t.store).2
        callers := t.callers ++ [i] } := by
  have hrun : ((errand i).task (occasion i)).run Outage.none t.store =
      (f (c.run t.store).1, (c.run t.store).2) := by
    rw [htask]
    rfl
  refine ⟨?_, fun j => ?_, ?_, ?_⟩
  · rw [List.nodup_append]
    refine ⟨h.nodup, List.nodup_singleton i, fun j hj k hk hjk => hi ?_⟩
    rw [List.mem_singleton] at hk
    rwa [hjk, hk] at hj
  · change Stage _ _ (decide (j ∈ t.callers ++ [i])) ((t.enter i _).phase j)
    rw [phase_enter]
    split
    · rename_i hj
      subst hj
      simp only [List.mem_append, List.mem_singleton, or_true, decide_true]
      exact .replied _
    · rename_i hj
      simp only [List.mem_append, List.mem_singleton, hj, or_false]
      exact h.stage j
  · have hold : t.callers.map (fun j => ((t.enter i (.talking
        (.answer (f (c.run t.store).1)))).phase j).told?) =
        t.callers.map fun j => (t.phase j).told? := by
      refine List.map_congr_left fun j hj => ?_
      have hne : j ≠ i := fun heq => hi (heq ▸ hj)
      rw [phase_enter, if_neg hne]
    simp only [List.map_append, List.map_cons, List.map_nil]
    rw [Dialogue.runEach_concat, ← h.store, hrun, hold, h.told, phase_enter, if_pos rfl]
    simp [Phase.told?]
  · simp only [List.map_append, List.map_cons, List.map_nil]
    rw [Dialogue.runEach_concat, ← h.store, hrun]

/-- Whichever errand makes the next step, and whatever step that is. -/
theorem serial_step (h : Serial errand occasion s t) (i : ι) :
    Serial errand occasion s (t.step errand occasion i) := by
  have hstage := h.stage i
  generalize hcalled : decide (i ∈ t.callers) = called at hstage
  unfold step
  cases hphase : t.phase i with
  | received =>
    rw [hphase] at hstage
    cases hstage
    have hi : i ∉ t.callers := by simpa using hcalled
    cases hcheck : (errand i).check with
    | error fault =>
      refine h.enter i _ ?_ fun hin => absurd hin hi
      rw [hcalled]
      exact .refused hcheck
    | ok _ =>
      refine h.enter i _ ?_ fun hin => absurd hin hi
      rw [hcalled]
      exact .checked hcheck
  | checked =>
    rw [hphase] at hstage
    cases hstage with
    | checked check =>
      have hi : i ∉ t.callers := by simpa using hcalled
      refine h.enter i _ ?_ fun hin => absurd hin hi
      rw [hcalled]
      exact .ready check rfl
  | talking rest =>
    rw [hphase] at hstage
    cases rest with
    | call c next =>
      cases hstage with
      | ready check ahead =>
        have hi : i ∉ t.callers := by simpa using hcalled
        obtain ⟨d, f, htask⟩ := (errand i).task_of_checked (occasion i) check
        rw [htask] at ahead
        cases ahead
        exact h.call i c f hi htask
    | answer a =>
      cases hstage with
      | ready check ahead =>
        obtain ⟨d, f, htask⟩ := (errand i).task_of_checked (occasion i) check
        rw [htask] at ahead
        cases ahead
      | refused check =>
        have hi : i ∉ t.callers := by simpa using hcalled
        refine h.enter i _ ?_ fun hin => absurd hin hi
        rw [hcalled]
        exact .dismissed check
      | replied =>
        refine h.enter i _ ?_ fun _ => ?_
        · rw [hcalled]
          exact .answered a
        · rw [hphase]
          rfl
  | answered a => exact h

theorem serial_play (h : Serial errand occasion s t) (interleaving : List ι) :
    Serial errand occasion s (t.play errand occasion interleaving) := by
  induction interleaving generalizing t with
  | nil => exact h
  | cons i is ih => exact ih (serial_step h i)

/-- The errands that called the store have been told what they are told one after another. -/
theorem Serial.runEach (h : Serial errand occasion s t) (answer : ι → Errand.Answer)
    (hdone : ∀ i, t.phase i = .answered (answer i)) :
    Dialogue.runEach (t.callers.map fun i => (errand i).task (occasion i)) s =
      (t.callers.map answer, t.store) := by
  refine Prod.ext ?_ h.store.symm
  have htold := h.told
  simp only [hdone, Phase.told?] at htold
  have hsplit : t.callers.map (fun i => some (answer i)) = (t.callers.map answer).map some := by
    simp
  rw [hsplit] at htold
  exact (List.map_injective_iff.2 (Option.some_injective _) htold).symm

/-! ## That every errand is answered -/

theorem rank_step_ne (t : Scene ι) (i j : ι) (hj : j ≠ i) :
    ((t.step errand occasion i).phase j).rank = (t.phase j).rank := by
  have henter : ∀ p, (t.enter i p).phase j = t.phase j := by
    intro p
    rw [phase_enter, if_neg hj]
  unfold step
  split
  · split <;> rw [henter]
  · rw [henter]
  · exact congrArg Phase.rank (henter _)
  · rw [henter]
  · rfl

/-- A step brings an errand forward, unless it is answered. -/
theorem Serial.rank_step (h : Serial errand occasion s t) (i : ι) :
    min 4 ((t.phase i).rank + 1) ≤ ((t.step errand occasion i).phase i).rank := by
  have hstage := h.stage i
  generalize decide (i ∈ t.callers) = called at hstage
  have henter : ∀ p, (t.enter i p).phase i = p := by
    intro p
    rw [phase_enter, if_pos rfl]
  unfold step
  split
  · rename_i hphase
    rw [hphase]
    split <;> rw [henter] <;> simp [Phase.rank]
  · rename_i hphase
    rw [hphase] at hstage ⊢
    rw [henter]
    cases hstage with
    | checked check =>
      obtain ⟨c, f, htask⟩ := (errand i).task_of_checked (occasion i) check
      rw [htask]
      simp [Phase.rank]
  · rename_i c next hphase
    rw [hphase] at hstage ⊢
    change _ ≤ ((t.enter i _).phase i).rank
    rw [henter]
    cases hstage with
    | ready check ahead =>
      obtain ⟨d, f, htask⟩ := (errand i).task_of_checked (occasion i) check
      rw [htask] at ahead
      cases ahead
      simp [Phase.rank]
  · rename_i hphase
    rw [hphase, henter]
    simp [Phase.rank]
  · rename_i hphase
    rw [hphase]
    simp [Phase.rank]

/-- Four steps answer an errand. -/
theorem rank_play (s : Store) (interleaving : List ι) (i : ι) :
    min 4 (interleaving.count i) ≤
      (((opening s).play errand occasion interleaving).phase i).rank := by
  induction interleaving using List.reverseRecOn with
  | nil => exact Nat.zero_le _
  | append_singleton is j ih =>
    have hserial : Serial errand occasion s ((opening s).play errand occasion is) :=
      serial_play (serial_opening s) is
    unfold play at ih hserial ⊢
    rw [List.foldl_append, List.count_append, List.foldl_cons, List.foldl_nil]
    by_cases hj : i = j
    · subst hj
      have hstep := hserial.rank_step i
      simp only [List.count_cons_self, List.count_nil]
      omega
    · rw [rank_step_ne _ j i hj, List.count_cons_of_ne (Ne.symm hj)]
      simpa using ih

end Scene

/-! ## What becomes of one workspace -/

namespace Errand

/-- The changes that an errand with this answer has made to a workspace. An empty revision makes
none. -/
def made? (o : Occasion) (answer : Answer) (id : Uuid) : Errand → Option Changes
  | update j r => if j = id ∧ answer.isOk ∧ !r.isEmpty then some (r.changes o.now) else none
  | create _ | get _ | delete _ => none

/-- Errands that do not draw its id leave a workspace away that is not there, and make the changes
of a revision to one that is there and stays. -/
theorem run_task (e : Errand) (o : Occasion) (s : Store) (id : Uuid)
    (hfresh : ∀ d, e = .create d → o.freshId ≠ id) :
    let run := (e.task o).run Outage.none s
    (s.find? id = none → run.2.find? id = none) ∧
    ∀ w w', s.find? id = some w → run.2.find? id = some w' →
      w' = Changes.applyAll (e.made? o run.1 id).toList w := by
  have hsame : ∀ w w', s.find? id = some w → s.find? id = some w' → w' = w := by
    intro w w' hw hw'
    rw [hw] at hw'
    exact (Option.some.inj hw').symm
  cases e with
  | create d =>
    simp only [task, Dialogue.run_map]
    rcases Service.create_result Outage.none s o d with ⟨fault, hrun⟩ | ⟨_, _, hrun⟩
    · rw [hrun]
      exact ⟨fun h => h, hsame⟩
    · rw [hrun]
      have hid : id ≠ (d.workspace o).id := fun h => hfresh d rfl h.symm
      simp only [Store.find?_put, if_neg hid]
      exact ⟨fun h => h, hsame⟩
  | get j =>
    simp only [task, Dialogue.run_map, Service.run_get]
    exact ⟨fun h => h, hsame⟩
  | update j r =>
    simp only [task, Dialogue.run_map]
    rcases Service.update_result Outage.none s o.now j r with
      ⟨fault, hrun⟩ | ⟨v, hv, _, ⟨hempty, hrun⟩ | ⟨hsome, hrun⟩⟩
    · rw [hrun]
      refine ⟨fun h => h, fun w w' hw hw' => ?_⟩
      rw [hsame w w' hw hw']
      simp [made?, Except.map, Except.isOk, Except.toBool, Changes.applyAll]
    · rw [hrun]
      refine ⟨fun h => h, fun w w' hw hw' => ?_⟩
      rw [hsame w w' hw hw']
      simp [made?, hempty, Changes.applyAll]
    · rw [hrun]
      refine ⟨fun h => ?_, fun w w' hw hw' => ?_⟩
      · rw [Store.find?_modify, h]
        split <;> rfl
      · rw [Store.find?_modify, hw] at hw'
        by_cases hj : id = j
        · rw [if_pos hj] at hw'
          rw [← Option.some.inj hw']
          simp [made?, hj, hsome, Except.map, Except.isOk, Except.toBool, Changes.applyAll]
        · rw [if_neg hj] at hw'
          rw [← Option.some.inj hw']
          simp [made?, Ne.symm hj, Changes.applyAll]
  | delete j =>
    simp only [task, Dialogue.run_map]
    rcases Service.delete_result Outage.none s j with ⟨fault, hrun⟩ | ⟨v, hv, hrun⟩
    · rw [hrun]
      exact ⟨fun h => h, hsame⟩
    · rw [hrun]
      simp only [Store.find?_erase]
      refine ⟨fun h => by rw [h, ite_self], fun w w' hw hw' => ?_⟩
      split at hw'
      · cases hw'
      · exact hsame w w' hw hw'

end Errand

namespace Scene

/-- Errands, one after another, make of a workspace that stays what their changes make of it. -/
theorem find?_runEach {ι : Type} (errand : ι → Errand) (occasion : ι → Occasion)
    (answer : ι → Errand.Answer) (id : Uuid) (callers : List ι) (s : Store)
    (hfresh : ∀ i ∈ callers, ∀ d, errand i = .create d → (occasion i).freshId ≠ id)
    (hanswers : (Dialogue.runEach (callers.map fun i => (errand i).task (occasion i)) s).1 =
      callers.map answer) :
    let s' := (Dialogue.runEach (callers.map fun i => (errand i).task (occasion i)) s).2
    (s.find? id = none → s'.find? id = none) ∧
    ∀ w w', s.find? id = some w → s'.find? id = some w' →
      w' = Changes.applyAll
        (callers.filterMap fun i => (errand i).made? (occasion i) (answer i) id) w := by
  induction callers generalizing s with
  | nil =>
    refine ⟨fun h => h, fun w w' hw hw' => ?_⟩
    change s.find? id = some w' at hw'
    rw [hw] at hw'
    exact (Option.some.inj hw').symm
  | cons i callers ih =>
    rw [List.map_cons, Dialogue.runEach_cons] at hanswers
    obtain ⟨hfirst, hothers⟩ := List.cons.inj hanswers
    obtain ⟨hfresh, hlater⟩ := List.forall_mem_cons.1 hfresh
    obtain ⟨habsent, hthere⟩ := (errand i).run_task (occasion i) s id hfresh
    obtain ⟨ihabsent, ihthere⟩ := ih _ hlater hothers
    rw [hfirst] at hthere
    simp only [List.map_cons, Dialogue.runEach_cons]
    refine ⟨fun h => ihabsent (habsent h), fun w w' hw hw' => ?_⟩
    -- A workspace that is there in the end was there all along.
    cases hmid : (((errand i).task (occasion i)).run Outage.none s).2.find? id with
    | none =>
      rw [ihabsent hmid] at hw'
      cases hw'
    | some u =>
      rw [ihthere u w' hmid hw', hthere w u hw hmid, List.filterMap_cons]
      cases (errand i).made? (occasion i) (answer i) id <;> rfl

variable {ι : Type} [DecidableEq ι]

/-- An order of all errands in which those that called the store stand as they called it. -/
structure InCallOrder (callers order : List ι) : Prop where
  nodup : order.Nodup
  complete : ∀ i, i ∈ order
  calls : order.filter (· ∈ callers) = callers

theorem exists_inCallOrder [Fintype ι] (callers : List ι) (h : callers.Nodup) :
    ∃ order, InCallOrder callers order := by
  refine ⟨callers ++ (Finset.univ : Finset ι).toList.filter (· ∉ callers), ?_, fun i => ?_, ?_⟩
  · rw [List.nodup_append]
    refine ⟨h, (Finset.nodup_toList _).filter _, fun i hi j hj hij => ?_⟩
    rw [List.mem_filter, decide_eq_true_eq] at hj
    rw [hij] at hi
    exact hj.2 hi
  · rw [List.mem_append, List.mem_filter, decide_eq_true_eq, Finset.mem_toList]
    by_cases hi : i ∈ callers
    · exact .inl hi
    · exact .inr ⟨Finset.mem_univ i, hi⟩
  · rw [List.filter_append, List.filter_eq_self.2 fun i hi => decide_eq_true hi, List.filter_filter]
    simp

/-- However the steps of errands are interleaved, the store is called at most once for each, four
steps are enough for an answer, and the answers and the store are those of the errands one after
another, as the store was called: those that did not call it may come anywhere. A workspace that is
there behind some of these calls, and still there in the end, has each field as the last revision
left it that succeeded behind them and set it. -/
theorem errands_at_once_act_one_after_another [Fintype ι] (errand : ι → Errand)
    (occasion : ι → Occasion) (s : Store) (interleaving : List ι) :
    let t := (opening s).play errand occasion interleaving
    t.callers.Nodup ∧
    (∀ i, 4 ≤ interleaving.count i → ∃ a, t.phase i = .answered a) ∧
    ∀ answer : ι → Errand.Answer, (∀ i, t.phase i = .answered (answer i)) →
      (∃ order, InCallOrder t.callers order) ∧
      (∀ order, InCallOrder t.callers order →
        Dialogue.runEach (order.map fun i => (errand i).task (occasion i)) s =
          (order.map answer, t.store)) ∧
      ∀ (earlier later : List ι) (id : Uuid) (w w' : Workspace), t.callers = earlier ++ later →
        (Dialogue.runEach (earlier.map fun i => (errand i).task (occasion i)) s).2.find? id =
          some w →
        t.store.find? id = some w' →
        (∀ i ∈ later, ∀ d, errand i = .create d → (occasion i).freshId ≠ id) →
        Changes.Latest
          (later.filterMap fun i => (errand i).made? (occasion i) (answer i) id) w w' := by
  intro t
  have hserial : Serial errand occasion s t := serial_play (serial_opening s) interleaving
  refine ⟨hserial.nodup, fun i hcount => ?_, fun answer hdone =>
    ⟨exists_inCallOrder t.callers hserial.nodup, fun order horder => ?_, ?_⟩⟩
  · have hrank : min 4 (interleaving.count i) ≤ (t.phase i).rank := rank_play s interleaving i
    exact (t.phase i).answered_of_rank (by omega)
  · refine Dialogue.runEach_of_idle _ answer t.callers order s t.store (fun i _ hi => ?_) ?_
    · have hstage := hserial.stage i
      rw [hdone i, decide_eq_false hi] at hstage
      exact hstage.refusal
    · rw [horder.calls]
      exact hserial.runEach answer hdone
  · intro earlier later id w w' hcallers hw hw' hfresh
    have hrun := hserial.runEach answer hdone
    rw [hcallers, List.map_append, List.map_append, Dialogue.runEach_append] at hrun
    obtain ⟨hanswers, hstore⟩ := Prod.mk.inj hrun
    have hlength : (Dialogue.runEach (earlier.map fun i => (errand i).task (occasion i)) s).1.length
        = (earlier.map answer).length := by
      rw [Dialogue.length_runEach, List.length_map, List.length_map]
    obtain ⟨_, hlater⟩ := List.append_inj hanswers hlength
    obtain ⟨_, hfind⟩ := find?_runEach errand occasion answer id later _ hfresh hlater
    rw [← hstore] at hw'
    rw [hfind w w' hw hw']
    exact Changes.latest_applyAll _ w

/-! ## A sample -/

namespace Sample

/-- Two revisions of one workspace. -/
def errand : Fin 2 → Errand
  | 0 => .update ⟨1⟩ ⟨some " three ", .keep, .write "star", .keep, none⟩
  | 1 => .update ⟨1⟩ ⟨none, .write "both", .write "moon", .keep, none⟩

def occasion : Fin 2 → Occasion
  | 0 => ⟨⟨⟨2025, 1, 1⟩, 0, 0⟩, .nil⟩
  | 1 => ⟨⟨⟨2025, 1, 2⟩, 0, 0⟩, .nil⟩

/-- The clock is read for both before the store is called, and then for the later one first. -/
def scene : Scene (Fin 2) :=
  (opening (Store.empty.after Store.Sample.calls)).play errand occasion [0, 1, 0, 1, 1, 0, 0, 1]

def answer (i : Fin 2) : Errand.Answer := (scene.phase i).told?.getD (.error .noWorkspace)

end Sample

theorem two_revisions_at_once_are_both_kept :
    Sample.scene.callers = [1, 0] ∧
    Dialogue.runEach ([1, 0].map fun i => (Sample.errand i).task (Sample.occasion i))
        (Store.empty.after Store.Sample.calls) =
      ([1, 0].map Sample.answer, Sample.scene.store) ∧
    ∃ w, Sample.scene.store.find? ⟨1⟩ = some w ∧ w.name = "three" ∧ w.description = some "both" ∧
      w.icon = some "star" := by
  have hcallers : Sample.scene.callers = [1, 0] := by decide +kernel
  obtain ⟨_, hturns, hdone⟩ := errands_at_once_act_one_after_another Sample.errand Sample.occasion
    (Store.empty.after Store.Sample.calls) [0, 1, 0, 1, 1, 0, 0, 1]
  have hanswered : ∀ i, Sample.scene.phase i = .answered (Sample.answer i) := by
    intro i
    obtain ⟨a, ha⟩ := hturns i (by revert i; decide)
    change Sample.scene.phase i = _ at ha
    rw [ha]
    simp [Sample.answer, ha, Phase.told?]
  obtain ⟨_, horder, hlatest⟩ := hdone Sample.answer hanswered
  refine ⟨hcallers, horder [1, 0] ⟨by decide, by decide, ?_⟩, ?_⟩
  · change List.filter (· ∈ Sample.scene.callers) [1, 0] = Sample.scene.callers
    rw [hcallers]
    decide
  · obtain ⟨w, hw⟩ : ∃ w, (Store.empty.after Store.Sample.calls).find? ⟨1⟩ = some w :=
      Option.isSome_iff_exists.1 (by decide +kernel)
    obtain ⟨w', hw'⟩ : ∃ w', Sample.scene.store.find? ⟨1⟩ = some w' :=
      Option.isSome_iff_exists.1 (by decide +kernel)
    have hfresh : ∀ i, (Sample.occasion i).freshId ≠ ⟨1⟩ := by decide
    have hfields := hlatest [] [1, 0] ⟨1⟩ w w' hcallers hw hw' fun i _ d _ => hfresh i
    generalize hmade : List.filterMap _ _ = made at hfields
    have hset : made.filterMap (·.name) = ["three"] ∧
        made.filterMap (·.description.outcome?) = [some "both"] ∧
        made.filterMap (·.icon.outcome?) = [some "moon", some "star"] := by
      subst hmade
      decide +kernel
    obtain ⟨hname, hdescription, hicon⟩ := hset
    refine ⟨w', hw', ?_, ?_, ?_⟩
    · rw [hfields.name, hname]
      rfl
    · rw [hfields.description, hdescription]
      rfl
    · rw [hfields.icon, hicon]
      rfl

end Scene

end Workspaces

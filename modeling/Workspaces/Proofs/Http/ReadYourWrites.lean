-- Reading one's writes: what is kept after a history is told by its answers alone. So a workspace
-- reads as it was last written, until it is deleted, and from then on nothing finds it.
import Workspaces.Proofs.Http.History
import Workspaces.Proofs.Http.Reads
import Workspaces.Proofs.Json.Extent
import Workspaces.Proofs.Uuid.Text

namespace Workspaces

/-! ## What a text tells -/

/-- The text of a workspace tells its id. -/
theorem Workspace.id_of_chars {v w : Workspace} (h : v.toJson.chars = w.toJson.chars) :
    v.id = w.id := by
  have hmembers := Json.object_inj _ _ h
  have hid := (Prod.ext_iff.1 (List.cons.inj hmembers).1).2
  exact Uuid.quoted_text_inj v.id w.id hid

namespace Http

/-- The body of an answer tells its data. -/
theorem Response.Conveys.unique {p : Response} {a b : Json} (ha : p.Conveys a)
    (hb : p.Conveys b) : a.chars = b.chars := by
  obtain ⟨e, now, hbody, hdata⟩ := ha
  obtain ⟨e', now', hbody', hdata'⟩ := hb
  rw [hbody] at hbody'
  have hchars : (e.toJson now).chars = (e'.toJson now').chars :=
    String.ofList_injective (Body.text.inj hbody')
  have hmembers := Json.object_inj _ _ hchars
  rw [hdata, hdata'] at hmembers
  have hfourth := (List.cons.inj (List.cons.inj (List.cons.inj (List.cons.inj hmembers).2).2).2).1
  exact (Prod.ext_iff.1 hfourth).2

/-! ## The log -/

/-- A line of the log: what was asked, and what came of it. -/
structure Line where
  request : Request
  outcome : Outcome

/-- The log of exchanges, one after another. -/
def log (c : Config) (s : Store) : List Exchange → List Line
  | [] => []
  | x :: xs => ⟨x.request, (x.run c s).1⟩ :: log c (x.run c s).2 xs

theorem log_append (c : Config) (s : Store) (xs ys : List Exchange) :
    log c s (xs ++ ys) = log c s xs ++ log c (storeAfter c s xs) ys := by
  induction xs generalizing s with
  | nil => rfl
  | cons x xs ih => exact congrArg (_ :: ·) (ih _)

theorem log_length (c : Config) (s : Store) (xs : List Exchange) :
    (log c s xs).length = xs.length := by
  induction xs generalizing s with
  | nil => rfl
  | cons x xs ih => exact congrArg (· + 1) (ih _)

namespace Line

/-- A POST that was answered with 201. -/
def creates (l : Line) : Bool :=
  l.request.method = "POST" && Outcome.status? l.outcome = some 201

/-- A DELETE that was answered with 200. -/
def deletes (l : Line) : Bool :=
  l.request.method = "DELETE" && Outcome.status? l.outcome = some 200

/-- A POST, PATCH or PUT that succeeded, with the workspace as its data. -/
def Tells (l : Line) (w : Workspace) : Prop :=
  l.request.method ∈ ["POST", "PATCH", "PUT"] ∧
    ∃ p, l.outcome = .ok p ∧ 200 ≤ p.status ∧ p.status < 300 ∧ p.Conveys w.toJson

def Creates (l : Line) (id : Uuid) : Prop := l.creates = true ∧ ∃ w, l.Tells w ∧ w.id = id

def Deletes (l : Line) (id : Uuid) : Prop := l.deletes = true ∧ l.request.Addresses id

/-- A line tells of one workspace. -/
theorem Tells.id_unique {l : Line} {v w : Workspace} (hv : l.Tells v) (hw : l.Tells w) :
    v.id = w.id := by
  obtain ⟨_, p, hp, _, _, hv⟩ := hv
  obtain ⟨_, p', hp', _, _, hw⟩ := hw
  rw [hp] at hp'
  obtain rfl := Except.ok.inj hp'
  exact Workspace.id_of_chars (hv.unique hw)

theorem creates_iff (l : Line) :
    l.creates = true ↔ l.request.method = "POST" ∧ Outcome.status? l.outcome = some 201 := by
  unfold creates
  rw [Bool.and_eq_true, decide_eq_true_eq, decide_eq_true_eq]

theorem deletes_iff (l : Line) :
    l.deletes = true ↔ l.request.method = "DELETE" ∧ Outcome.status? l.outcome = some 200 := by
  unfold deletes
  rw [Bool.and_eq_true, decide_eq_true_eq, decide_eq_true_eq]

theorem succeeds_of_creates {l : Line} (h : l.creates = true) :
    Outcome.Succeeds l.outcome ∧ l.request.writes = true := by
  obtain ⟨method, status⟩ := l.creates_iff.1 h
  refine ⟨⟨201, status, by decide, by decide⟩, ?_⟩
  unfold Request.writes
  rw [method]
  decide

theorem succeeds_of_deletes {l : Line} (h : l.deletes = true) :
    Outcome.Succeeds l.outcome ∧ l.request.writes = true := by
  obtain ⟨method, status⟩ := l.deletes_iff.1 h
  refine ⟨⟨200, status, by decide, by decide⟩, ?_⟩
  unfold Request.writes
  rw [method]
  decide

/-- A PATCH or PUT may tell of a workspace, but neither creates nor deletes one. -/
theorem of_revision {l : Line} (method : l.request.method = "PATCH" ∨ l.request.method = "PUT") :
    l.creates = false ∧ l.deletes = false ∧ l.request.method ∈ ["POST", "PATCH", "PUT"] := by
  unfold creates deletes
  rcases method with method | method <;> simp [method]

theorem Tells.succeeds {l : Line} {w : Workspace} (h : l.Tells w) :
    Outcome.Succeeds l.outcome ∧ l.request.writes = true := by
  obtain ⟨hmethod, p, hp, hlow, hhigh, _⟩ := h
  refine ⟨⟨p.status, by rw [hp]; rfl, hlow, hhigh⟩, ?_⟩
  simp only [List.mem_cons, List.not_mem_nil, or_false] at hmethod
  unfold Request.writes
  rcases hmethod with h | h | h <;> rw [h] <;> decide

end Line

/-- A path addresses one workspace. -/
theorem Request.Addresses.unique {r : Request} {i j : Uuid} (hi : r.Addresses i)
    (hj : r.Addresses j) : i = j := by
  obtain ⟨a, ha, hi⟩ := hi
  obtain ⟨b, hb, hj⟩ := hj
  rw [ha] at hb
  cases hb
  rw [hi] at hj
  cases hj
  rfl

/-! ## What a line of the log says of the store -/

/-- Nothing that counts, or a workspace that was created, told of or deleted. -/
inductive Effect (x : Exchange) (s : Store) (l : Line) : Store → Prop
  | silent (creates : l.creates = false) (deletes : l.deletes = false)
      (tells : ∀ w, ¬ l.Tells w) : Effect x s l s
  | created (w : Workspace) (fresh : w.id = x.occasion.freshId) (creates : l.creates = true)
      (deletes : l.deletes = false) (tells : l.Tells w) : Effect x s l (s.put w)
  | told {s' : Store} (v w : Workspace) (found : s.find? w.id = some v)
      (creates : l.creates = false) (deletes : l.deletes = false) (tells : l.Tells w)
      (count : s'.count = s.count)
      (find : ∀ j, s'.find? j = if j = w.id then some w else s.find? j) : Effect x s l s'
  | deleted (id : Uuid) (w : Workspace) (found : s.find? id = some w)
      (creates : l.creates = false) (deletes : l.deletes = true)
      (addresses : l.request.Addresses id) (tells : ∀ w, ¬ l.Tells w) : Effect x s l (s.erase id)

/-- What an exchange comes to is what its line says, if workspaces are kept under their ids. -/
theorem Turn.effect {x : Exchange} {s s' : Store} {outcome : Outcome}
    (h : Turn x s outcome s') (hkeyed : ∀ id w, s.find? id = some w → w.id = id) :
    Effect x s ⟨x.request, outcome⟩ s' := by
  cases h with
  | idle calm =>
    have hnone : ¬ (Outcome.Succeeds outcome ∧ x.request.writes = true) := by
      rintro ⟨hsucceeds, hwrites⟩
      rw [calm hsucceeds] at hwrites
      cases hwrites
    refine .silent ?_ ?_ fun w hw => hnone hw.succeeds
    · exact Bool.eq_false_iff.2 fun h => hnone (Line.succeeds_of_creates h)
    · exact Bool.eq_false_iff.2 fun h => hnone (Line.succeeds_of_deletes h)
  | @created p d method check free status told =>
    refine .created _ rfl ?_ ?_ ⟨?_, p, rfl, ?_, ?_, told⟩
    · exact (Line.creates_iff _).2 ⟨method, congrArg some status⟩
    · simp [Line.deletes, method]
    · simp [method]
    · omega
    · omega
  | @shown p id w method addresses found status told =>
    obtain rfl := hkeyed id w found
    obtain ⟨hcreates, hdeletes, hmethod⟩ := Line.of_revision (l := ⟨x.request, .ok p⟩) method
    refine .told w w found hcreates hdeletes ⟨hmethod, p, rfl, ?_, ?_, told⟩ rfl fun j => ?_
    · omega
    · omega
    · split
      · rename_i hj
        rw [hj, found]
      · rfl
  | @revised p id w r method addresses found check status told =>
    obtain rfl := hkeyed id w found
    obtain ⟨hcreates, hdeletes, hmethod⟩ := Line.of_revision (l := ⟨x.request, .ok p⟩) method
    refine .told w ((r.changes x.occasion.now).apply w) found hcreates hdeletes
      ⟨hmethod, p, rfl, ?_, ?_, told⟩ (s.count_modify _ _) fun j => ?_
    · omega
    · omega
    · rw [Store.find?_modify]
      change (if j = w.id then _ else _) = if j = w.id then _ else _
      split
      · rename_i hj
        rw [hj, found]
        rfl
      · rfl
  | @deleted p id w method addresses found status =>
    refine .deleted id w found ?_ ?_ addresses fun v hv => ?_
    · simp [Line.creates, method]
    · exact (Line.deletes_iff _).2 ⟨method, congrArg some status⟩
    · have hmethod := hv.1
      simp [method] at hmethod

namespace Effect

variable {x : Exchange} {s s' : Store} {l : Line}

/-- An id is there if the line creates it, or if it was there and the line does not delete it. -/
theorem present (h : Effect x s l s') (id : Uuid) :
    s'.find? id ≠ none ↔ l.Creates id ∨ s.find? id ≠ none ∧ ¬ l.Deletes id := by
  cases h with
  | silent creates deletes tells => simp [Line.Creates, Line.Deletes, creates, deletes]
  | created w fresh creates deletes tells =>
    have hcreates : l.Creates id ↔ id = w.id := by
      constructor
      · rintro ⟨_, v, hv, rfl⟩
        exact hv.id_unique tells
      · rintro rfl
        exact ⟨creates, w, tells, rfl⟩
    rw [hcreates, Store.find?_put]
    by_cases hid : id = w.id <;> simp [hid, Line.Deletes, deletes]
  | told v w found creates deletes tells count find =>
    rw [find]
    by_cases hid : id = w.id
    · simp [hid, found, Line.Creates, Line.Deletes, creates, deletes]
    · simp [hid, Line.Creates, Line.Deletes, creates, deletes]
  | deleted j w found creates deletes addresses tells =>
    have hdeletes : l.Deletes id ↔ id = j := by
      constructor
      · rintro ⟨_, haddresses⟩
        exact haddresses.unique addresses
      · rintro rfl
        exact ⟨deletes, addresses⟩
    rw [hdeletes, Store.find?_erase]
    by_cases hid : id = j <;> simp [hid, Line.Creates, creates]

/-- What is there after a workspace was written is what the line tells, or it was there. -/
theorem latest_of_written {u w : Workspace} {id : Uuid} (tells : l.Tells u)
    (find : s'.find? id = if id = u.id then some u else s.find? id)
    (hw : s'.find? id = some w) :
    l.Tells w ∨ s.find? id = some w ∧ ∀ v, l.Tells v → v.id ≠ id := by
  rw [find] at hw
  split at hw
  · obtain rfl := Option.some.inj hw
    exact .inl tells
  · rename_i hid
    refine .inr ⟨hw, fun v hv => ?_⟩
    rw [hv.id_unique tells]
    exact Ne.symm hid

/-- What is there is what the line tells, or it was there and the line does not tell of it. -/
theorem latest (h : Effect x s l s') (id : Uuid) (w : Workspace) (hw : s'.find? id = some w) :
    l.Tells w ∨ s.find? id = some w ∧ ∀ v, l.Tells v → v.id ≠ id := by
  cases h with
  | silent creates deletes tells => exact .inr ⟨hw, fun v hv => absurd hv (tells v)⟩
  | created u fresh creates deletes tells => exact latest_of_written tells (s.find?_put u id) hw
  | told v u found creates deletes tells count find => exact latest_of_written tells (find id) hw
  | deleted j u found creates deletes addresses tells =>
    rw [Store.find?_erase] at hw
    split at hw
    · cases hw
    · exact .inr ⟨hw, fun v hv => absurd hv (tells v)⟩

/-- A creation adds one workspace, and a deletion takes one away. -/
theorem counted (h : Effect x s l s') (hfresh : s.find? x.occasion.freshId = none) :
    s'.count + (if l.deletes = true then 1 else 0) =
      s.count + if l.creates = true then 1 else 0 := by
  cases h with
  | silent creates deletes tells => simp [creates, deletes]
  | created w fresh creates deletes tells =>
    rw [← fresh] at hfresh
    simp [creates, deletes, s.count_put w hfresh]
  | told v w found creates deletes tells count find => simp [creates, deletes, count]
  | deleted id w found creates deletes addresses tells =>
    simp [creates, deletes, s.count_erase w id found]

/-- Only the id that was drawn comes to be there. -/
theorem known (h : Effect x s l s') (id : Uuid) (hid : s'.find? id ≠ none) :
    id = x.occasion.freshId ∨ s.find? id ≠ none := by
  cases h with
  | silent => exact .inr hid
  | created w fresh creates deletes tells =>
    rw [Store.find?_put] at hid
    split at hid
    · rename_i heq
      exact .inl (heq.trans fresh)
    · exact .inr hid
  | told v w found creates deletes tells count find =>
    rw [find] at hid
    split at hid
    · rename_i heq
      refine .inr ?_
      rw [heq, found]
      simp
    · exact .inr hid
  | deleted j w found creates deletes addresses tells =>
    rw [Store.find?_erase] at hid
    split at hid
    · exact absurd rfl hid
    · exact .inr hid

theorem gone (h : Effect x s l s') (id : Uuid) (hid : l.Deletes id) : s.find? id ≠ none := by
  obtain ⟨hdeletes, haddresses⟩ := hid
  cases h with
  | silent creates deletes tells | created w fresh creates deletes tells
  | told v w found creates deletes tells count find =>
    rw [deletes] at hdeletes
    cases hdeletes
  | deleted j w found creates deletes addresses tells =>
    rw [haddresses.unique addresses, found]
    simp

end Effect

/-! ## What the log says of the store -/

/-- The last of those with `p` or without `q` is one with `p`. -/
def Since {α : Type} (p q : α → Prop) (xs : List α) : Prop :=
  ∃ before x after, xs = before ++ x :: after ∧ p x ∧ ∀ y ∈ after, q y

theorem since_append_singleton {α : Type} (p q : α → Prop) (xs : List α) (x : α) :
    Since p q (xs ++ [x]) ↔ p x ∨ Since p q xs ∧ q x := by
  constructor
  · rintro ⟨before, y, after, heq, hy, hafter⟩
    rcases List.eq_nil_or_concat after with rfl | ⟨after, z, rfl⟩
    · obtain ⟨_, hxy⟩ := List.append_inj' heq rfl
      obtain rfl := (List.cons.inj hxy).1
      exact .inl hy
    · rw [List.concat_eq_append, ← List.cons_append, ← List.append_assoc] at heq
      obtain ⟨hxs, hxz⟩ := List.append_inj' heq rfl
      obtain rfl := (List.cons.inj hxz).1
      refine .inr ⟨⟨before, y, after, hxs, hy, fun u hu => hafter u ?_⟩, hafter x ?_⟩
      · simp [hu]
      · simp
  · rintro (hx | ⟨⟨before, y, after, rfl, hy, hafter⟩, hx⟩)
    · exact ⟨xs, x, [], rfl, hx, by simp⟩
    · refine ⟨before, y, after ++ [x], by simp, hy, fun u hu => ?_⟩
      rcases List.mem_append.1 hu with hu | hu
      · exact hafter u hu
      · rwa [List.mem_singleton.1 hu]

/-- What the lines of a log say of the store after it; `drawn` are the ids drawn meanwhile. -/
structure Tracks (drawn : List Uuid) (lines : List Line) (s : Store) : Prop where
  keyed : ∀ id w, s.find? id = some w → w.id = id
  present : ∀ id, s.find? id ≠ none ↔ Since (·.Creates id) (¬ ·.Deletes id) lines
  latest : ∀ id w, s.find? id = some w →
    Since (·.Tells w) (fun l => ∀ v, l.Tells v → v.id ≠ id) lines
  counted : s.count + lines.countP Line.deletes = lines.countP Line.creates
  known : ∀ id, s.find? id ≠ none → id ∈ drawn
  gone : ∀ l ∈ lines, ∀ id, l.Deletes id → id ∈ drawn ∧ s.find? id = none

theorem tracks_empty : Tracks [] [] Store.empty where
  keyed := by simp
  present := by simp [Since]
  latest := by simp
  counted := rfl
  known := by simp
  gone := by simp

theorem tracks_step {drawn : List Uuid} {lines : List Line} {s : Store} (c : Config)
    (x : Exchange) (hs : Tracks drawn lines s) (hfresh : x.occasion.freshId ∉ drawn) :
    Tracks (drawn ++ [x.occasion.freshId]) (lines ++ [⟨x.request, (x.run c s).1⟩])
      (x.run c s).2 := by
  have hturn := Server.turn_of_run x s c
  have heffect := hturn.effect hs.keyed
  have hfree : s.find? x.occasion.freshId = none := by
    by_contra hfound
    exact hfresh (hs.known _ hfound)
  have hall : s.All fun _ => True := fun id w hw => ⟨hs.keyed id w hw, trivial⟩
  refine ⟨fun id w hw => ?_, fun id => ?_, fun id w hw => ?_, ?_, fun id hid => ?_, ?_⟩
  · exact (hturn.all hall (fun _ _ => trivial) (fun _ _ => trivial) (fun _ _ _ _ => trivial)
      id w hw).1
  · rw [heffect.present, since_append_singleton, hs.present]
  · rw [since_append_singleton]
    rcases heffect.latest id w hw with htells | ⟨hold, hother⟩
    · exact .inl htells
    · exact .inr ⟨hs.latest id w hold, hother⟩
  · have hstep := heffect.counted hfree
    have hold := hs.counted
    rw [List.countP_append, List.countP_append, List.countP_singleton, List.countP_singleton]
    omega
  · rcases heffect.known id hid with rfl | hold
    · simp
    · exact List.mem_append_left _ (hs.known id hold)
  · intro l hl id hid
    rcases List.mem_append.1 hl with hold | hnew
    · -- An id that was deleted could only come back by being drawn again.
      obtain ⟨hdrawn, hnone⟩ := hs.gone l hold id hid
      refine ⟨List.mem_append_left _ hdrawn, ?_⟩
      by_contra hfound
      rcases heffect.known id hfound with rfl | hthere
      · exact hfresh hdrawn
      · exact hthere hnone
    · obtain rfl := List.mem_singleton.1 hnew
      refine ⟨List.mem_append_left _ (hs.known id (heffect.gone id hid)), ?_⟩
      by_contra hfound
      rcases (heffect.present id).1 hfound with ⟨hcreates, _⟩ | ⟨_, hkept⟩
      · have hmethod := ((Line.creates_iff _).1 hcreates).1
        rw [((Line.deletes_iff _).1 hid.1).1] at hmethod
        exact absurd hmethod (by decide)
      · exact hkept hid

/-- By induction on the end of the history, where the newest line is. -/
theorem tracks_run (c : Config) (xs : List Exchange)
    (hfresh : (xs.map fun x => x.occasion.freshId).Nodup) :
    Tracks (xs.map fun x => x.occasion.freshId) (log c Store.empty xs)
      (storeAfter c Store.empty xs) := by
  induction xs using List.reverseRecOn with
  | nil => exact tracks_empty
  | append_singleton xs x ih =>
    rw [List.map_append, List.nodup_append] at hfresh
    obtain ⟨hxs, _, hdisjoint⟩ := hfresh
    rw [List.map_append, log_append, storeAfter_append]
    refine tracks_step c x (ih hxs) fun hx => ?_
    exact hdisjoint _ hx _ (by simp) rfl

/-! ## The laws -/

/-- The body of an answer is an envelope that gives the number of all workspaces. -/
def Response.Totals (p : Response) (total : Int) : Prop :=
  ∃ (e : Envelope) (m : Metadata) (now : Instant), p.body = .text (e.toJson now).text ∧
    e.metadata = some m ∧ m.total = some total

/-- A page that is shown stands beside the number of all workspaces. -/
theorem page_totals (c : Config) (x : Exchange) (s : Store) (p : Response)
    (hcalm : x.outage = Outage.none) (hmethod : x.request.method = "GET")
    (hroute : Route.ofApiPath? x.request.target.path = some .collection)
    (hrun : (x.run c s).1 = .ok p) (hstatus : p.status = 200) : p.Totals s.count := by
  rcases Server.list_answer c x s hcalm hmethod hroute with
    ⟨fault, hfault, _, hrefused⟩ | ⟨w, requestId, _, hshown⟩
  · rw [hrefused] at hrun
    obtain rfl := Except.ok.inj hrun
    have hsame : fault.status = 200 := hstatus
    omega
  · rw [hshown] at hrun
    obtain ⟨e, he, rfl⟩ := ok_of_map hrun
    obtain ⟨_, m, hmetadata, htotal⟩ := Server.pageEnvelope_total he
    exact ⟨e, m, x.occasion.now, rfl, hmetadata, htotal⟩

/-- The first page is always shown, if workspaces can be counted. -/
theorem first_page_answer (c : Config) (x : Exchange) (s : Store)
    (hcalm : x.outage = Outage.none) (hmethod : x.request.method = "GET")
    (hroute : Route.ofApiPath? x.request.target.path = some .collection)
    (hquery : x.request.target.query = []) (hcount : s.count < 2 ^ 62) :
    ∃ p, (x.run c s).1 = .ok p ∧ p.status = 200 := by
  have hasks : x.request.Asks ⟨0, 100⟩ := ⟨⟨none, none⟩, by rw [hquery]; rfl, rfl⟩
  rcases Server.list_answer c x s hcalm hmethod hroute with
    ⟨_, _, hnone, _⟩ | ⟨w, requestId, hw, hshown⟩
  · exact absurd hasks (hnone _)
  · obtain rfl := hw.unique hasks
    rw [hshown]
    rcases Server.pageEnvelope_eq requestId (s.list 0 100) ⟨0, 100⟩ s.count (by decide)
      (by decide) (by decide) (by omega) (by change (s.count : Int) + 100 < 2 ^ 63; omega) with
      ⟨_, e, he⟩ | ⟨hover, _⟩
    · rw [he]
      exact ⟨_, rfl, rfl⟩
    · exact absurd hover (by decide)

/-- A workspace that is not there is neither shown nor changed nor removed. -/
theorem absent_fails (c : Config) (x : Exchange) (s : Store) (id : Uuid)
    (hmethod : x.request.method ∈ ["GET", "PATCH", "PUT", "DELETE"])
    (haddresses : x.request.Addresses id) (habsent : s.find? id = none) :
    ¬ Outcome.Succeeds (x.run c s).1 := by
  by_cases hget : x.request.method = "GET"
  · exact lookup_fails c x s id hget haddresses habsent
  · have hwrites : x.request.writes = true := by
      simp only [List.mem_cons, List.not_mem_nil, or_false] at hmethod
      unfold Request.writes
      rcases hmethod with h | h | h | h
      · exact absurd h hget
      all_goals rw [h]; decide
    intro hsucceeds
    generalize hrun : x.run c s = run at hsucceeds
    have hturn := Server.turn_of_run x s c
    rw [hrun] at hturn
    obtain ⟨outcome, s'⟩ := run
    cases hturn with
    | idle calm =>
      rw [calm hsucceeds] at hwrites
      cases hwrites
    | created d method => simp [method] at hmethod
    | shown j w method addresses found | revised j w r method addresses found
    | deleted j w method addresses found =>
      rw [addresses.unique haddresses, habsent] at found
      cases found

/-- After any history that began with nothing kept, whichever calls of the store failed in it, and
with ids that were never drawn twice: a workspace is shown exactly if an answer told of its creation
and none of its deletion since, and it is then as the last answer to a write has told it. One that
is not shown is not found, and one that was deleted is never found again. The listing counts the
creations without the deletions. -/
theorem a_workspace_reads_as_it_was_last_written (c : Config) (xs : List Exchange)
    (hfresh : (xs.map fun x => x.occasion.freshId).Nodup) :
    let lines := log c Store.empty xs
    let s := storeAfter c Store.empty xs
    (∀ (id : Uuid) (x : Exchange), x.outage = Outage.none → x.request.method = "GET" →
      x.request.Addresses id →
      ∃ p, (x.run c s).1 = .ok p ∧
        (p.status = 200 ↔ Since (·.Creates id) (¬ ·.Deletes id) lines) ∧
        (p.status = 200 → ∃ w, w.id = id ∧ p.Conveys w.toJson ∧
          Since (·.Tells w) (fun l => ∀ v, l.Tells v → v.id ≠ id) lines) ∧
        (p.status ≠ 200 → p.status = 404)) ∧
    (∀ id, (∃ l ∈ lines, l.Deletes id) → ∀ x : Exchange, x.request.Addresses id →
      x.request.method ∈ ["GET", "PATCH", "PUT", "DELETE"] → ¬ Outcome.Succeeds (x.run c s).1) ∧
    (∀ x : Exchange, x.outage = Outage.none → x.request.method = "GET" →
      Route.ofApiPath? x.request.target.path = some .collection →
      (x.request.target.query = [] → xs.length < 2 ^ 62 →
        ∃ p, (x.run c s).1 = .ok p ∧ p.status = 200) ∧
      ∀ p, (x.run c s).1 = .ok p → p.status = 200 →
        p.Totals ((lines.countP Line.creates : Int) - lines.countP Line.deletes)) := by
  intro lines s
  have htracks : Tracks _ lines s := tracks_run c xs hfresh
  have hcounted := htracks.counted
  refine ⟨fun id x hcalm hmethod haddresses => ?_, ?_, fun x hcalm hmethod hroute => ⟨?_, ?_⟩⟩
  · obtain ⟨p, hrun, ⟨w, hfind, hstatus, htold⟩ | ⟨hfind, hstatus⟩⟩ :=
      lookup_answer c x s id hcalm hmethod haddresses
    · refine ⟨p, hrun, ?_, fun _ => ?_, fun h => absurd hstatus h⟩
      · rw [← htracks.present, hfind]
        simp [hstatus]
      · exact ⟨w, htracks.keyed id w hfind, htold, htracks.latest id w hfind⟩
    · refine ⟨p, hrun, ?_, fun h => ?_, fun _ => hstatus⟩
      · rw [← htracks.present, hfind]
        simp [hstatus]
      · omega
  · rintro id ⟨l, hl, hdeletes⟩ x haddresses hmethod
    exact absent_fails c x s id hmethod haddresses (htracks.gone l hl id hdeletes).2
  · intro hquery hlength
    refine first_page_answer c x s hcalm hmethod hroute hquery ?_
    have hle : lines.countP Line.creates ≤ lines.length := List.countP_le_length
    have hlog : lines.length = xs.length := log_length c Store.empty xs
    omega
  · intro p hrun hstatus
    have htotal := page_totals c x s p hcalm hmethod hroute hrun hstatus
    have hcount : (s.count : Int) =
        (lines.countP Line.creates : Int) - lines.countP Line.deletes := by omega
    rwa [hcount] at htotal

theorem a_renamed_workspace_reads_as_renamed :
    ∃ p w, ((Sample.exchange 3 ⟨3⟩ "GET"
        "/api/v1/workspaces/00000000000000000000000000000001" "").run Sample.config
        (storeAfter Sample.config Store.empty Sample.history)).1 = .ok p ∧ p.status = 200 ∧
      w.id = ⟨1⟩ ∧ p.Conveys w.toJson ∧
      Since (·.Tells w) (fun l => ∀ v, l.Tells v → v.id ≠ ⟨1⟩)
        (log Sample.config Store.empty Sample.history) := by
  obtain ⟨hget, _, _⟩ :=
    a_workspace_reads_as_it_was_last_written Sample.config Sample.history (by decide +kernel)
  have haddresses : (Sample.exchange 3 ⟨3⟩ "GET"
      "/api/v1/workspaces/00000000000000000000000000000001" "").request.Addresses ⟨1⟩ :=
    ⟨Octets.ofString "00000000000000000000000000000001", by decide +kernel, by decide +kernel⟩
  obtain ⟨p, hrun, _, hdata, _⟩ := hget ⟨1⟩ _ rfl rfl haddresses
  have hstatus : Outcome.status? ((Sample.exchange 3 ⟨3⟩ "GET"
      "/api/v1/workspaces/00000000000000000000000000000001" "").run Sample.config
      (storeAfter Sample.config Store.empty Sample.history)).1 = some 200 := by decide +kernel
  rw [hrun] at hstatus
  obtain ⟨w, hid, htold, hlatest⟩ := hdata (Option.some.inj hstatus)
  exact ⟨p, w, hrun, Option.some.inj hstatus, hid, htold, hlatest⟩

end Http

end Workspaces

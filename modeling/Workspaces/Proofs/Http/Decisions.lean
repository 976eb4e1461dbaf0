-- What decides how a creation or a revision is answered: first its body and the rules of the values
-- in it, then whether its workspace is there, and last whether its name is free. Names are compared
-- as they are kept, which is trimmed.
import Workspaces.Proofs.Http.Frame
import Workspaces.Proofs.Http.Ids
import Workspaces.Proofs.Http.ReadYourWrites

namespace Workspaces.Http

/-! ## What is kept -/

/-- Exchanges keep every name trimmed. -/
theorem trimmed_storeAfter (c : Config) (xs : List Exchange) (s : Store)
    (hs : s.All fun w => Text.trim w.name = w.name) :
    (storeAfter c s xs).All fun w => Text.trim w.name = w.name := by
  induction xs generalizing s with
  | nil => exact hs
  | cons x xs ih =>
    refine ih _ ((Server.turn_of_run x s c).all hs (fun _ hw => hw) (fun d _ => ?_) ?_)
    · exact Text.trim_trim d.name
    · intro r w _ hw
      change Text.trim ((r.name.map Text.trim).getD w.name) = (r.name.map Text.trim).getD w.name
      cases r.name with
      | none => exact hw
      | some t => exact Text.trim_trim t

/-- What is there was there before, or its id was drawn since. -/
theorem drawn_of_storeAfter (c : Config) (xs : List Exchange) (s : Store) (hs : s.Orderly)
    (id : Uuid) (h : (storeAfter c s xs).find? id ≠ none) :
    s.find? id ≠ none ∨ ∃ x ∈ xs, x.occasion.freshId = id := by
  induction xs generalizing s with
  | nil => exact .inl h
  | cons x xs ih =>
    rcases ih _ (orderly_storeAfter c [x] s hs) h with hthere | ⟨y, hy, hid⟩
    · rcases ((Server.turn_of_run x s c).effect hs.keyed).known id hthere with hid | hbefore
      · exact .inr ⟨x, List.mem_cons_self, hid.symm⟩
      · exact .inl hbefore
    · exact .inr ⟨y, List.mem_cons_of_mem x hy, hid⟩

/-! ## Bodies -/

/-- The body of the request is refused, or a value that it gives breaks its rule. -/
inductive Request.Faulty {α : Type} (reader : Json.Reader α) (given : α → Given) (r : Request) :
    Prop
  | body {fault : BodyFault} (refused : r.json reader = .error fault)
  | value {a : α} {field code : String} (read : r.json reader = .ok a)
      (breaks : (given a).Breaks field code)

theorem Request.not_faulty {α : Type} {reader : Json.Reader α} {given : α → Given} {r : Request}
    {a : α} (hread : r.json reader = .ok a) (hsound : ∀ field code, ¬ (given a).Breaks field code) :
    ¬ r.Faulty reader given := by
  intro h
  cases h with
  | body refused =>
    rw [hread] at refused
    cases refused
  | value read breaks =>
    rw [hread] at read
    obtain rfl := Except.ok.inj read
    exact hsound _ _ breaks

/-! ## Names -/

/-- The one detail of a name that another workspace has. -/
def nameTaken : Detail :=
  ⟨some "name", "WORKSPACE_003", "Workspace with this name already exists"⟩

theorem Response.fails_nameConflict (now : Instant) :
    (ofFault Store.nameConflict now).Fails 409 [nameTaken] :=
  fails_of_envelope 409 "Workspace with this name already exists" _ now

/-! ## Creating -/

/-- How the creation of a workspace is decided. -/
inductive CreationDecided (x : Exchange) (s : Store) (p : Response) (s' : Store) : Prop
  | refused (faulty : x.request.Faulty Draft.shape.take Draft.given) {details : List Detail}
      (told : p.Fails 400 details) : CreationDecided x s p s'
  | taken (sound : ¬ x.request.Faulty Draft.shape.take Draft.given) {d : Draft}
      (read : x.request.json Draft.shape.take = .ok d)
      (taken : ∃ j v, s.find? j = some v ∧ v.name = Text.trim d.name)
      (told : p.Fails 409 [nameTaken]) : CreationDecided x s p s'
  | created (sound : ¬ x.request.Faulty Draft.shape.take Draft.given) {d : Draft}
      (read : x.request.json Draft.shape.take = .ok d)
      (free : ¬ ∃ j v, s.find? j = some v ∧ v.name = Text.trim d.name) (status : p.status = 201)
      {w : Workspace} (told : p.Conveys w.toJson) (kept : s' = s.put w)
      (id : w.id = x.occasion.freshId) (name : w.name = Text.trim d.name)
      (description : w.description = d.description) (icon : w.icon = d.icon)
      (color : w.color = d.color) (state : w.state = d.state.getD (.object []))
      (createdAt : w.createdAt = x.occasion.now) (updatedAt : w.updatedAt = x.occasion.now) :
      CreationDecided x s p s'

theorem Server.creation_decided (c : Config) (x : Exchange) (s : Store)
    (hcalm : x.outage = Outage.none) (hmethod : x.request.method = "POST")
    (hroute : Route.ofApiPath? x.request.target.path = some .collection) :
    ∃ p, (x.run c s).1 = .ok p ∧ CreationDecided x s p (x.run c s).2 := by
  rw [run_of_creation c x s hmethod hroute, hcalm]
  unfold create
  cases hjson : x.request.json Draft.shape.take with
  | error fault =>
    obtain ⟨message, hfails⟩ := Response.fails_bodyFault fault x.occasion.now
    exact ⟨_, rfl, .refused (.body hjson) (hfails.dress c x)⟩
  | ok d =>
    simp only
    rw [Dialogue.run_map]
    rcases d.verdict_check.cases with
      ⟨hsound, hcheck⟩ | ⟨⟨field, code, hbreaks⟩, message, details, hdetails, hcheck⟩
    · have hsound' := Request.not_faulty hjson hsound
      rcases Service.run_create_cases s x.occasion.toOccasion d hcheck with
        ⟨htaken, hrun⟩ | ⟨hfree, hrun⟩
      · rw [hrun]
        exact ⟨_, rfl, .taken hsound' hjson htaken ((Response.fails_nameConflict _).dress c x)⟩
      · rw [hrun]
        exact ⟨_, rfl, .created hsound' hjson hfree rfl ⟨_, _, rfl, rfl⟩ rfl rfl rfl rfl rfl rfl
          rfl rfl rfl⟩
    · rw [Service.run_create_refused _ s x.occasion.toOccasion d hcheck]
      exact ⟨_, rfl, .refused (.value hjson hbreaks)
        ((Response.fails_validation message hdetails _).dress c x)⟩

/-- After any exchanges, and while every call of the store is carried out, a creation is answered
with 400 if its body is refused or a value in it breaks its rule, else with 409 if a workspace has
its name once that is trimmed, and else with 201: then the workspace is what was read from the body.
What is read is what the body gives, whether that is an object or a list, and an id that was not
drawn before is the id of no workspace. -/
theorem a_creation_is_decided_by_its_body_and_its_name (c : Config) (before : List Exchange)
    (x : Exchange) (hcalm : x.outage = Outage.none) (hmethod : x.request.method = "POST")
    (hroute : Route.ofApiPath? x.request.target.path = some .collection) :
    let s := storeAfter c Store.empty before
    (∃ p, (x.run c s).1 = .ok p ∧ CreationDecided x s p (x.run c s).2) ∧
    (∀ d, x.request.json Draft.shape.take = .ok d → Json.GivesSuch d.Says x.request.body) ∧
    ((∀ y ∈ before, y.occasion.freshId ≠ x.occasion.freshId) →
      s.find? x.occasion.freshId = none) := by
  intro s
  refine ⟨Server.creation_decided c x s hcalm hmethod hroute, fun d hread => ?_, fun hfresh => ?_⟩
  · obtain ⟨u, htake⟩ := Request.take_of_json hread
    exact Draft.givesSuch_of_take htake
  · by_contra hthere
    rcases drawn_of_storeAfter c before _ Store.orderly_empty _ hthere with hempty | ⟨y, hy, hid⟩
    · exact hempty rfl
    · exact hfresh y hy hid

/-- A workspace is created under a name that another one had first. -/
def Sample.successor : Exchange :=
  exchange 3 ⟨3⟩ "POST" "/api/v1/workspaces" "\x7b\"name\":\"one\\t\",\"icon\":null\x7d"

theorem a_workspace_is_created_under_a_name_given_up :
    ∃ (p : Response) (w : Workspace), (Sample.successor.run Sample.config
        (storeAfter Sample.config Store.empty Sample.history)).1 = .ok p ∧ p.status = 201 ∧
      p.Conveys w.toJson ∧ w.id = ⟨3⟩ ∧ w.name = "one" ∧ w.icon = none ∧
      w.state = .object [] := by
  obtain ⟨⟨p, hrun, hdecided⟩, _⟩ := a_creation_is_decided_by_its_body_and_its_name Sample.config
    Sample.history Sample.successor rfl rfl (by decide +kernel)
  have hstatus : Outcome.status? (Sample.successor.run Sample.config
      (storeAfter Sample.config Store.empty Sample.history)).1 = some 201 := by decide +kernel
  rw [hrun] at hstatus
  have hcreated : p.status = 201 := Option.some.inj hstatus
  have hread : Sample.successor.request.json Draft.shape.take =
      .ok ⟨"one\t", none, none, none, none⟩ := by decide +kernel
  cases hdecided with
  | refused faulty told => simp [told.1] at hcreated
  | taken sound read taken told => simp [told.1] at hcreated
  | @created sound d read free status w told kept id name description icon color state =>
    rw [hread] at read
    obtain rfl := Except.ok.inj read
    have htrimmed : Text.trim "one\t" = "one" := by decide +kernel
    exact ⟨p, w, hrun, hcreated, told, id, name.trans htrimmed, icon, state⟩

/-! ## Revising -/

/-- How the revision of the workspace under an id is decided. -/
inductive RevisionDecided (x : Exchange) (id : Uuid) (s : Store) (p : Response) : Prop
  | refused (faulty : x.request.Faulty Revision.shape.take Revision.given) {details : List Detail}
      (told : p.Fails 400 details) : RevisionDecided x id s p
  | absent (sound : ¬ x.request.Faulty Revision.shape.take Revision.given)
      (absent : s.find? id = none) (told : p.Fails 404 [noWorkspace]) : RevisionDecided x id s p
  | taken (sound : ¬ x.request.Faulty Revision.shape.take Revision.given) {r : Revision}
      (read : x.request.json Revision.shape.take = .ok r) {w : Workspace}
      (found : s.find? id = some w)
      (taken : ∃ t ∈ r.name, ∃ j v, s.find? j = some v ∧ v.name = Text.trim t ∧ j ≠ id)
      (told : p.Fails 409 [nameTaken]) : RevisionDecided x id s p
  | revised (sound : ¬ x.request.Faulty Revision.shape.take Revision.given) {r : Revision}
      (read : x.request.json Revision.shape.take = .ok r) {w : Workspace}
      (found : s.find? id = some w)
      (free : ¬ ∃ t ∈ r.name, ∃ j v, s.find? j = some v ∧ v.name = Text.trim t ∧ j ≠ id)
      (status : p.status = 200) : RevisionDecided x id s p

/-- Only the name of another workspace is a conflict. -/
theorem RevisionDecided.no_conflict {x : Exchange} {id : Uuid} {s : Store} {p : Response}
    (h : RevisionDecided x id s p) {r : Revision} {t : String}
    (hread : x.request.json Revision.shape.take = .ok r) (hname : r.name = some t)
    (hfree : ∀ j v, s.find? j = some v → v.name = Text.trim t → j = id) : p.status ≠ 409 := by
  cases h with
  | refused faulty told => simp [told.1]
  | absent sound absent told => simp [told.1]
  | revised sound read found free status => simp [status]
  | taken sound read found taken told =>
    rw [hread] at read
    obtain rfl := Except.ok.inj read
    obtain ⟨t', ht', j, v, hv, hsame, hj⟩ := taken
    rw [hname] at ht'
    obtain rfl := Option.some.inj ht'
    exact absurd (hfree j v hv hsame) hj

theorem Server.revision_decided (c : Config) (x : Exchange) (s : Store) (id : Uuid)
    (hs : s.Orderly) (hcalm : x.outage = Outage.none)
    (hmethod : x.request.method = "PATCH" ∨ x.request.method = "PUT")
    (haddresses : x.request.Addresses id) :
    ∃ p, (x.run c s).1 = .ok p ∧ RevisionDecided x id s p := by
  obtain ⟨segment, hroute, hid⟩ := haddresses
  rw [run_of_revision c x s hmethod hroute, hcalm]
  unfold update
  simp only [hid]
  cases hjson : x.request.json Revision.shape.take with
  | error fault =>
    obtain ⟨message, hfails⟩ := Response.fails_bodyFault fault x.occasion.now
    exact ⟨_, rfl, .refused (.body hjson) (hfails.dress c x)⟩
  | ok r =>
    simp only [withId, hid]
    rw [Dialogue.run_map]
    rcases r.verdict_check.cases with
      ⟨hsound, hcheck⟩ | ⟨⟨field, code, hbreaks⟩, message, details, hdetails, hcheck⟩
    · have hsound' := Request.not_faulty hjson hsound
      rcases Service.run_update_cases s hs x.occasion.now id r hcheck with
        ⟨habsent, hrun⟩ | ⟨w, hfind, ⟨htaken, hrun⟩ | ⟨hfree, w', s', hrun⟩⟩
      · rw [hrun]
        exact ⟨_, rfl, .absent hsound' habsent ((Response.fails_noWorkspace _).dress c x)⟩
      · rw [hrun]
        exact ⟨_, rfl, .taken hsound' hjson hfind htaken
          ((Response.fails_nameConflict _).dress c x)⟩
      · rw [hrun]
        exact ⟨_, rfl, .revised hsound' hjson hfind hfree rfl⟩
    · rw [Service.run_update_refused _ s x.occasion.now id r hcheck]
      exact ⟨_, rfl, .refused (.value hjson hbreaks)
        ((Response.fails_validation message hdetails _).dress c x)⟩

/-- After any exchanges, and while every call of the store is carried out, a revision of a workspace
is answered with 400 if its body is refused or a value in it breaks its rule, else with 404 if the
workspace is not there, else with 409 if another workspace has its name once that is trimmed, and
else with 200. What is read is what the body gives, whether that is an object or a list. So its own
name is never refused to a workspace, whatever blanks are put around it, and a name that was given
up in the exchange before is nobody's and is refused to none. -/
theorem a_revision_is_decided_by_its_body_its_workspace_and_its_name (c : Config)
    (before : List Exchange) (x : Exchange) (id : Uuid) (hcalm : x.outage = Outage.none)
    (hmethod : x.request.method = "PATCH" ∨ x.request.method = "PUT")
    (haddresses : x.request.Addresses id) :
    let s := storeAfter c Store.empty before
    ∃ p, (x.run c s).1 = .ok p ∧ RevisionDecided x id s p ∧
      ∀ r, x.request.json Revision.shape.take = .ok r →
        Json.GivesSuch r.Says x.request.body ∧
        (∀ w front behind, s.find? id = some w → (∀ ch ∈ front, Text.isBlank ch = true) →
          (∀ ch ∈ behind, Text.isBlank ch = true) →
          r.name = some (String.ofList (front ++ w.name.toList ++ behind)) → p.status ≠ 409) ∧
        ∀ earlier y i v, before = earlier ++ [y] →
          (storeAfter c Store.empty earlier).find? i = some v →
          (∀ u, s.find? i = some u → u.name ≠ v.name) →
          (∀ j u, s.find? j = some u → u.name ≠ v.name) ∧
          ∀ t, r.name = some t → Text.trim t = v.name → p.status ≠ 409 := by
  intro s
  have hs : s.Orderly := orderly_storeAfter c before _ Store.orderly_empty
  obtain ⟨p, hrun, hdecided⟩ := Server.revision_decided c x s id hs hcalm hmethod haddresses
  refine ⟨p, hrun, hdecided, fun r hread => ⟨?_, ?_, ?_⟩⟩
  · obtain ⟨u, htake⟩ := Request.take_of_json hread
    exact Revision.givesSuch_of_take htake
  · intro w front behind hfind hfront hbehind hname
    have htrimmed := (trimmed_storeAfter c before _ (by simp [Store.All]) id w hfind).2
    refine hdecided.no_conflict hread hname fun j v hv hsame => ?_
    rw [Text.trim_padded htrimmed hfront hbehind] at hsame
    exact hs.names j id v w hv hfind hsame
  · intro earlier y i v hlast hv hgone
    have hs' := orderly_storeAfter c earlier _ Store.orderly_empty
    have hnobody : ∀ j u, s.find? j = some u → u.name ≠ v.name := by
      have hstep : s = (y.run c (storeAfter c Store.empty earlier)).2 := by
        change storeAfter c Store.empty before = _
        rw [hlast, storeAfter_append]
        rfl
      obtain ⟨k, hbut⟩ := (Server.turn_of_run y (storeAfter c Store.empty earlier) c).sameBut
      rw [← hstep] at hbut
      exact hs'.free_of_given_up hbut hv hgone
    refine ⟨hnobody, fun t hname htrim => hdecided.no_conflict hread hname fun j u hu hsame => ?_⟩
    exact absurd (hsame.trans htrim) (hnobody j u hu)

/-- A second workspace is created, with the name "two". -/
def Sample.second : Exchange :=
  exchange 2 ⟨2⟩ "POST" "/api/v1/workspaces" "\x7b\"name\":\" two \"\x7d"

/-- The second workspace is deleted. -/
def Sample.departure : Exchange :=
  exchange 3 .nil "DELETE" "/api/v1/workspaces/00000000000000000000000000000002" ""

/-- The first workspace is to be called "two". -/
def Sample.takeover : Exchange := Sample.renaming 4 "00000000000000000000000000000001"

theorem a_name_is_refused_until_it_is_given_up :
    (∃ p, (Sample.takeover.run Sample.config (storeAfter Sample.config Store.empty
        [Sample.creation, Sample.second])).1 = .ok p ∧ p.Fails 409 [nameTaken]) ∧
    ∃ p, (Sample.takeover.run Sample.config (storeAfter Sample.config Store.empty
        [Sample.creation, Sample.second, Sample.departure])).1 = .ok p ∧ p.status = 200 ∧
      ∀ j u, (storeAfter Sample.config Store.empty
        [Sample.creation, Sample.second, Sample.departure]).find? j = some u → u.name ≠ "two" := by
  have haddresses : Sample.takeover.request.Addresses ⟨1⟩ :=
    ⟨Octets.ofString "00000000000000000000000000000001", by decide +kernel, by decide +kernel⟩
  have hlaw := fun before => a_revision_is_decided_by_its_body_its_workspace_and_its_name
    Sample.config before Sample.takeover ⟨1⟩ rfl (.inl rfl) haddresses
  have hread : Sample.takeover.request.json Revision.shape.take =
      .ok ⟨some "two", .keep, .keep, .keep, none⟩ := by decide +kernel
  constructor
  · obtain ⟨p, hrun, hdecided, _⟩ := hlaw [Sample.creation, Sample.second]
    have hstatus : Outcome.status? (Sample.takeover.run Sample.config
        (storeAfter Sample.config Store.empty [Sample.creation, Sample.second])).1 = some 409 := by
      decide +kernel
    rw [hrun] at hstatus
    have htaken : p.status = 409 := Option.some.inj hstatus
    cases hdecided with
    | refused faulty told => simp [told.1] at htaken
    | absent sound absent told => simp [told.1] at htaken
    | taken sound read found taken told => exact ⟨p, hrun, told⟩
    | revised sound read found free status => simp [status] at htaken
  · obtain ⟨p, hrun, _, hgiven⟩ := hlaw [Sample.creation, Sample.second, Sample.departure]
    have hstatus : Outcome.status? (Sample.takeover.run Sample.config (storeAfter Sample.config
        Store.empty [Sample.creation, Sample.second, Sample.departure])).1 = some 200 := by
      decide +kernel
    rw [hrun] at hstatus
    have hbefore : ((storeAfter Sample.config Store.empty
        [Sample.creation, Sample.second]).find? ⟨2⟩).map (·.name) = some "two" := by
      decide +kernel
    have hafter : (storeAfter Sample.config Store.empty
        [Sample.creation, Sample.second, Sample.departure]).find? ⟨2⟩ = none := by
      decide +kernel
    obtain ⟨v, hv, hname⟩ := Option.map_eq_some_iff.1 hbefore
    obtain ⟨_, _, hgivenUp⟩ := hgiven _ hread
    obtain ⟨hnobody, _⟩ := hgivenUp [Sample.creation, Sample.second] Sample.departure ⟨2⟩ v rfl hv
      fun u hu => by rw [hafter] at hu; cases hu
    rw [hname] at hnobody
    exact ⟨p, hrun, Option.some.inj hstatus, hnobody⟩

end Workspaces.Http

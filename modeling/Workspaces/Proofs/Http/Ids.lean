-- Ids in paths: what a path spells decides which workspace is read, deleted or revised, and what is
-- answered where it spells none.
import Workspaces.Proofs.Http.Refusals
import Workspaces.Proofs.Uuid.Spelling

namespace Workspaces.Http

/-! ## Paths -/

/-- The path of a workspace, by the percent-encoded text of its id. -/
def itemPath (segment : Octets) : Octets := Octets.ofString "/api/v1/workspaces/" ++ segment

/-- The text can stand for an id in a path. -/
structure IsSegment (segment : Octets) : Prop where
  nonempty : segment ≠ []
  noSlash : 0x2F ∉ segment

instance (segment : Octets) : Decidable (IsSegment segment) :=
  decidable_of_iff (segment ≠ [] ∧ 0x2F ∉ segment) ⟨fun ⟨h, h'⟩ => ⟨h, h'⟩, fun ⟨h, h'⟩ => ⟨h, h'⟩⟩

theorem ofApiPath?_itemPath {segment : Octets} (h : IsSegment segment) :
    Route.ofApiPath? (itemPath segment) = some (.item segment) := by
  have hfront : itemPath segment = Octets.ofString "/api/v1/workspaces" ++ 0x2F :: segment := rfl
  have hhealth : itemPath segment ≠ Octets.ofString "/health" := by
    intro heq
    have htwo := congrArg (List.take 2) heq
    have hitem : (itemPath segment).take 2 = (Octets.ofString "/api/v1/workspaces").take 2 := rfl
    rw [hitem] at htwo
    exact absurd htwo (by decide)
  have hafter : Route.after? "/api/v1/workspaces" (itemPath segment) = some (0x2F :: segment) := by
    unfold Route.after?
    rw [hfront]
    simp
  unfold Route.ofApiPath?
  rw [if_neg hhealth, hafter]
  exact if_pos ⟨rfl, h.nonempty, h.noSlash⟩

/-- A path of octets that spell an id names it. -/
theorem pathId?_of_spelling {segment : Octets} {id : Uuid}
    (h : id.Spelling (Percent.decode segment)) : pathId? segment = some (some id) := by
  have htext := (Octets.isText_iff _).1 h.isText
  obtain ⟨text, htext⟩ := Option.isSome_iff_exists.1 htext
  unfold pathId?
  simp only [htext, (Uuid.ofOctets?_eq_some_iff _ id).2 h]
  rfl

/-- A path of a text that spells no id names nobody. -/
theorem pathId?_of_text {segment : Octets} (htext : Octets.IsText (Percent.decode segment))
    (h : ∀ id : Uuid, ¬ id.Spelling (Percent.decode segment)) : pathId? segment = some none := by
  obtain ⟨text, htext⟩ := Option.isSome_iff_exists.1 ((Octets.isText_iff _).1 htext)
  have hnone : Uuid.ofOctets? (Percent.decode segment) = none := by
    refine Option.eq_none_iff_forall_ne_some.2 fun id hid => ?_
    exact h id ((Uuid.ofOctets?_eq_some_iff _ id).1 hid)
  unfold pathId?
  simp only [htext, hnone]
  rfl

/-! ## Reading and deleting -/

/-- The one detail of a workspace that is not there. -/
def noWorkspace : Detail := ⟨none, "NOT_FOUND", "workspace not found"⟩

theorem Response.fails_noWorkspace (now : Instant) :
    (ofFault .noWorkspace now).Fails 404 [noWorkspace] :=
  fails_of_envelope 404 "workspace not found" _ now

namespace Server

variable (c : Config) (x : Exchange) (s : Store)

theorem run_of_lookup {segment : Octets} (hmethod : x.request.method = "GET")
    (hroute : Route.ofApiPath? x.request.target.path = some (.item segment)) :
    x.run c s = (((get x.occasion segment).run x.outage s).1.map (dress c x),
      ((get x.occasion segment).run x.outage s).2) := by
  rw [run_of_route x s c (by simp [hmethod]) hroute]
  simp only [handle, hmethod]
  rfl

theorem run_of_deletion {segment : Octets} (hmethod : x.request.method = "DELETE")
    (hroute : Route.ofApiPath? x.request.target.path = some (.item segment)) :
    x.run c s = (((delete x.occasion segment).run x.outage s).1.map (dress c x),
      ((delete x.occasion segment).run x.outage s).2) := by
  rw [run_of_route x s c (by simp [hmethod]) hroute]
  simp only [handle, hmethod]

/-- Octets that are no text are refused. -/
theorem run_of_no_text {segment : Octets}
    (hmethod : x.request.method = "GET" ∨ x.request.method = "DELETE")
    (hroute : Route.ofApiPath? x.request.target.path = some (.item segment))
    (hid : pathId? segment = none) : x.run c s = (.ok (dress c x undecodableId), s) := by
  rcases hmethod with hmethod | hmethod
  · rw [run_of_lookup c x s hmethod hroute]
    unfold get withId
    simp only [hid]
    rfl
  · rw [run_of_deletion c x s hmethod hroute]
    unfold delete withId
    simp only [hid]
    rfl

/-- A text that spells no id, and the id of no workspace, are answered alike. -/
theorem run_of_absent {segment : Octets} {id? : Option Uuid} (hcalm : x.outage = Outage.none)
    (hmethod : x.request.method = "GET" ∨ x.request.method = "DELETE")
    (hroute : Route.ofApiPath? x.request.target.path = some (.item segment))
    (hid : pathId? segment = some id?) (habsent : ∀ id ∈ id?, s.find? id = none) :
    x.run c s = (.ok (dress c x (.ofFault .noWorkspace x.occasion.now)), s) := by
  rcases hmethod with hmethod | hmethod
  · rw [run_of_lookup c x s hmethod hroute, hcalm]
    unfold get withId
    simp only [hid]
    cases id? with
    | none => rfl
    | some id =>
      simp only
      rw [Dialogue.run_map, Service.run_get, habsent id rfl]
      rfl
  · rw [run_of_deletion c x s hmethod hroute, hcalm]
    unfold delete withId
    simp only [hid]
    cases id? with
    | none => rfl
    | some id =>
      have hnone := habsent id rfl
      simp only
      rw [Dialogue.run_map, Service.run_delete, hnone, s.erase_of_absent id hnone]
      rfl

/-- The workspace of an id is told, or erased. -/
theorem run_of_present {segment : Octets} {id : Uuid} {w : Workspace}
    (hcalm : x.outage = Outage.none)
    (hmethod : x.request.method = "GET" ∨ x.request.method = "DELETE")
    (hroute : Route.ofApiPath? x.request.target.path = some (.item segment))
    (hid : pathId? segment = some (some id)) (hfind : s.find? id = some w) :
    ∃ p, (x.run c s).1 = .ok p ∧ p.status = 200 ∧
      (x.request.method = "GET" → p.Conveys w.toJson ∧ (x.run c s).2 = s) ∧
      (x.request.method = "DELETE" → (x.run c s).2 = s.erase id) := by
  rcases hmethod with hmethod | hmethod
  · rw [run_of_lookup c x s hmethod hroute, hcalm]
    unfold get withId
    simp only [hid]
    rw [Dialogue.run_map, Service.run_get, hfind]
    exact ⟨_, rfl, rfl, fun _ => ⟨⟨_, _, rfl, rfl⟩, rfl⟩, by simp [hmethod]⟩
  · rw [run_of_deletion c x s hmethod hroute, hcalm]
    unfold delete withId
    simp only [hid]
    rw [Dialogue.run_map, Service.run_delete, hfind]
    exact ⟨_, rfl, rfl, by simp [hmethod], fun _ => rfl⟩

end Server

def Exchange.onPath (x : Exchange) (path : Octets) : Exchange :=
  { x with request := { x.request with target := { x.request.target with path } } }

/-- What a path spells is all that counts of it. -/
theorem run_of_same_id (c : Config) (x : Exchange) (s : Store) {segment other : Octets}
    (hmethod : x.request.method = "GET" ∨ x.request.method = "DELETE")
    (hroute : Route.ofApiPath? x.request.target.path = some (.item segment))
    (hother : IsSegment other) (hid : pathId? other = pathId? segment) :
    (x.onPath (itemPath other)).run c s = x.run c s := by
  have hroute' : Route.ofApiPath? (x.onPath (itemPath other)).request.target.path =
      some (.item other) := ofApiPath?_itemPath hother
  rcases hmethod with hmethod | hmethod
  · rw [Server.run_of_lookup c x s hmethod hroute,
      Server.run_of_lookup c (x.onPath (itemPath other)) s hmethod hroute']
    unfold Server.get Server.withId
    rw [hid]
    rfl
  · rw [Server.run_of_deletion c x s hmethod hroute,
      Server.run_of_deletion c (x.onPath (itemPath other)) s hmethod hroute']
    unfold Server.delete Server.withId
    rw [hid]
    rfl

/-- With every call of the store carried out, what a path spells once it is decoded decides what is
read or deleted: the workspace of the id if it is there, and else nothing, which is told in the one
envelope of what is not found. Octets that are no text are refused before anybody looks whether
they spell an id, and without an envelope. All spellings of one id come to the same. -/
theorem reads_and_deletes_go_by_what_the_path_spells (c : Config) (x : Exchange) (s : Store)
    (segment : Octets) (hcalm : x.outage = Outage.none)
    (hmethod : x.request.method = "GET" ∨ x.request.method = "DELETE")
    (hpath : x.request.target.path = itemPath segment) (hsegment : IsSegment segment) :
    ((∃ (id : Uuid) (w : Workspace) (p : Response), id.Spelling (Percent.decode segment) ∧
        s.find? id = some w ∧ (x.run c s).1 = .ok p ∧ p.status = 200 ∧
        (x.request.method = "GET" → p.Conveys w.toJson ∧ (x.run c s).2 = s) ∧
        (x.request.method = "DELETE" → (x.run c s).2 = s.erase id)) ∨
      (Octets.IsText (Percent.decode segment) ∧
        (∀ id : Uuid, id.Spelling (Percent.decode segment) → s.find? id = none) ∧
        ∃ p, x.run c s = (.ok p, s) ∧ p.Fails 404 [noWorkspace]) ∨
      (¬ Octets.IsText (Percent.decode segment) ∧
        ∃ p, x.run c s = (.ok p, s) ∧ p.status = 400 ∧
          p.body = .text "Invalid URL: Invalid UTF-8 in `workspace_id`")) ∧
    ∀ (id : Uuid) (other : Octets), id.Spelling (Percent.decode segment) →
      id.Spelling (Percent.decode other) → IsSegment other →
      (x.onPath (itemPath other)).run c s = x.run c s := by
  have hroute : Route.ofApiPath? x.request.target.path = some (.item segment) := by
    rw [hpath]
    exact ofApiPath?_itemPath hsegment
  refine ⟨?_, fun id other hid hother hsegment' => ?_⟩
  · by_cases htext : Octets.IsText (Percent.decode segment)
    · have hfails := (Response.fails_noWorkspace x.occasion.now).dress c x
      by_cases hspelled : ∃ id : Uuid, id.Spelling (Percent.decode segment)
      · obtain ⟨id, hid⟩ := hspelled
        have hpathId := pathId?_of_spelling hid
        cases hfind : s.find? id with
        | none =>
          refine .inr (.inl ⟨htext, fun other hother => ?_, _, ?_, hfails⟩)
          · rw [hother.unique hid, hfind]
          · exact Server.run_of_absent c x s hcalm hmethod hroute hpathId (by simpa using hfind)
        | some w =>
          obtain ⟨p, hpresent⟩ := Server.run_of_present c x s hcalm hmethod hroute hpathId hfind
          exact .inl ⟨id, w, p, hid, hfind, hpresent⟩
      · have hnobody : ∀ id : Uuid, ¬ id.Spelling (Percent.decode segment) :=
          fun id hid => hspelled ⟨id, hid⟩
        refine .inr (.inl ⟨htext, fun id hid => absurd hid (hnobody id), _, ?_, hfails⟩)
        exact Server.run_of_absent c x s hcalm hmethod hroute (pathId?_of_text htext hnobody)
          (by simp)
    · have hpathId := (pathId?_eq_none_iff segment).2 htext
      exact .inr (.inr ⟨htext, _, Server.run_of_no_text c x s hmethod hroute hpathId, rfl, rfl⟩)
  · refine run_of_same_id c x s hmethod hroute hsegment' ?_
    rw [pathId?_of_spelling hid, pathId?_of_spelling hother]

/-- Neither reading nor deleting under octets that are no text is answered as not found. -/
theorem an_id_of_no_text_is_not_answered_as_not_found :
    Outcome.status? ((Sample.exchange 1 .nil "GET" "/api/v1/workspaces/%FF" "").run Sample.config
      Store.empty).1 = some 400 ∧
    Outcome.status? ((Sample.exchange 1 .nil "DELETE" "/api/v1/workspaces/%FF" "").run Sample.config
      Store.empty).1 = some 400 := by
  decide +kernel

/-- A store with one workspace in it. -/
def Sample.stocked : Store := (creation.run config Store.empty).2

/-- The deletion of that workspace by its id in braces, which are percent-encoded. -/
def Sample.deletion : Exchange :=
  exchange 2 .nil "DELETE" "/api/v1/workspaces/%7B00000000-0000-0000-0000-000000000001%7d" ""

theorem a_workspace_is_deleted_by_its_id_in_braces :
    Sample.deletion.outage = Outage.none ∧
    Sample.deletion.request.target.path = itemPath (Octets.ofString
      "%7B00000000-0000-0000-0000-000000000001%7d") ∧
    (∃ p, (Sample.deletion.run Sample.config Sample.stocked).1 = .ok p ∧ p.status = 200) ∧
    (Sample.deletion.run Sample.config Sample.stocked).2 = Sample.stocked.erase ⟨1⟩ := by
  have hpath : Sample.deletion.request.target.path = itemPath (Octets.ofString
      "%7B00000000-0000-0000-0000-000000000001%7d") := by decide +kernel
  have hspelled : (Uuid.mk 1).Spelling (Percent.decode (Octets.ofString
      "%7B00000000-0000-0000-0000-000000000001%7d")) :=
    (Uuid.ofOctets?_eq_some_iff _ _).1 (by decide +kernel)
  have hstored : (Sample.stocked.find? ⟨1⟩).isSome = true := by decide +kernel
  refine ⟨rfl, hpath, ?_⟩
  rcases (reads_and_deletes_go_by_what_the_path_spells Sample.config Sample.deletion Sample.stocked
    _ rfl (.inr rfl) hpath (by decide +kernel)).1 with
    ⟨id, _, p, hid, _, hrun, hstatus, _, hdeleted⟩ | ⟨_, habsent, _⟩ | ⟨hnotext, _⟩
  · rw [hid.unique hspelled] at hdeleted
    exact ⟨⟨p, hrun, hstatus⟩, hdeleted rfl⟩
  · rw [habsent _ hspelled] at hstored
    cases hstored
  · exact absurd hspelled.isText hnotext

/-! ## Revising -/

/-- What is wrong with the fields that the body gives, if it can be read. -/
def Request.breaches (r : Request) : List (String × Breach) :=
  match r.json Revision.shape.take with
  | .ok revision => revision.breaches
  | .error _ => []

/-- Two responses that say the same, each at its own time. -/
def Response.SameBut (p q : Response) (now now' : Instant) : Prop :=
  p.status = q.status ∧
    ∃ e : Envelope, p.body = .text (e.toJson now).text ∧ q.body = .text (e.toJson now').text

theorem Response.fails_validation (message : String) {details : List Detail} (h : details ≠ [])
    (now : Instant) : (ofFault (.validation message details) now).Fails 400 details := by
  cases details with
  | nil => exact absurd rfl h
  | cons d ds => exact fails_of_envelope 400 message (d :: ds) now

theorem Response.sameBut_ofFault (c : Config) (x y : Exchange) (fault : Fault) :
    (Server.dress c x (ofFault fault x.occasion.now)).SameBut
      (Server.dress c y (ofFault fault y.occasion.now)) x.occasion.now y.occasion.now := by
  -- Each status is told by itself: to compare the two as they stand is to compare their headers.
  have hstatus : ∀ z : Exchange,
      (Server.dress c z (ofFault fault z.occasion.now)).status = fault.status := fun _ => rfl
  exact ⟨(hstatus x).trans (hstatus y).symm, .ofFault fault, rfl, rfl⟩

/-- A revision under a text that spells no id and the same under the id of no workspace are answered
alike, but for the time, unless a field that the body gives breaks its rule. The id is looked for
in the path before the fields are looked at, and the workspace after that: so what is wrong with
the fields is told under the second path only. -/
theorem an_unspelled_id_is_answered_as_an_unknown_one_unless_a_field_breaks_its_rule (c : Config)
    (x y : Exchange) (s : Store) (segment other : Octets) (id : Uuid)
    (hcalm : y.outage = Outage.none)
    (hmethod : x.request.method = "PATCH" ∨ x.request.method = "PUT")
    (hsame : y.request = { x.request with target := y.request.target })
    (hx : x.request.target.path = itemPath segment) (hsegment : IsSegment segment)
    (htext : Octets.IsText (Percent.decode segment))
    (hnobody : ∀ v : Uuid, ¬ v.Spelling (Percent.decode segment))
    (hy : y.request.target.path = itemPath other) (hother : IsSegment other)
    (hid : id.Spelling (Percent.decode other)) (habsent : s.find? id = none) :
    ∃ p q, x.run c s = (.ok p, s) ∧ y.run c s = (.ok q, s) ∧
      (x.request.breaches = [] → p.SameBut q x.occasion.now y.occasion.now) ∧
      (x.request.breaches ≠ [] → p.Fails 404 [noWorkspace] ∧
        q.Fails 400 (x.request.breaches.map fun (field, breach) => breach.detail field)) := by
  have hroute : Route.ofApiPath? x.request.target.path = some (.item segment) := by
    rw [hx]
    exact ofApiPath?_itemPath hsegment
  have hroute' : Route.ofApiPath? y.request.target.path = some (.item other) := by
    rw [hy]
    exact ofApiPath?_itemPath hother
  have hmethod' : y.request.method = "PATCH" ∨ y.request.method = "PUT" := by
    rw [hsame]
    exact hmethod
  have hjson' : y.request.json Revision.shape.take = x.request.json Revision.shape.take := by
    rw [hsame]
    rfl
  rw [Server.run_of_revision c x s hmethod hroute, Server.run_of_revision c y s hmethod' hroute']
  unfold Server.update Request.breaches
  simp only [pathId?_of_text htext hnobody, pathId?_of_spelling hid, hjson', hcalm]
  cases hjson : x.request.json Revision.shape.take with
  | error fault =>
    exact ⟨_, _, rfl, rfl, fun _ => Response.sameBut_ofFault c x y fault.fault,
      fun h => absurd rfl h⟩
  | ok revision =>
    simp only [Server.withId, pathId?_of_text htext hnobody, pathId?_of_spelling hid]
    rw [Dialogue.run_map]
    rcases Rules.verdict_cases (revision.breaches.map fun (field, breach) => breach.detail field)
      with ⟨hnone, hcheck⟩ | ⟨hdetails, message, hcheck⟩
    · rw [Service.run_update_absent s _ id revision hcheck habsent]
      exact ⟨_, _, rfl, rfl, fun _ => Response.sameBut_ofFault c x y .noWorkspace,
        fun h => absurd (List.map_eq_nil_iff.1 hnone) h⟩
    · have hrefused : (Service.update y.occasion.now id revision).run Outage.none s =
          (.error (.validation message (revision.breaches.map fun (field, breach) =>
            breach.detail field)), s) := by
        unfold Service.update Revision.check
        rw [hcheck]
        rfl
      rw [hrefused]
      exact ⟨_, _, rfl, rfl, fun h => absurd (List.map_eq_nil_iff.2 h) hdetails, fun _ =>
        ⟨(Response.fails_noWorkspace _).dress c x,
          (Response.fails_validation message hdetails _).dress c y⟩⟩

/-- Both paths name nobody, but only under the second one is a blank name told of. -/
theorem a_blank_name_is_told_of_under_an_unknown_id_only :
    Outcome.status? ((Sample.exchange 1 .nil "PATCH" "/api/v1/workspaces/x"
      "\x7b\"name\":\"\"\x7d").run Sample.config Store.empty).1 = some 404 ∧
    Outcome.status? ((Sample.exchange 1 .nil "PATCH"
      "/api/v1/workspaces/00000000-0000-0000-0000-000000000000"
      "\x7b\"name\":\"\"\x7d").run Sample.config Store.empty).1 = some 400 := by
  decide +kernel

/-- A revision of the name under a path. -/
def Sample.renaming (day : Nat) (segment : String) : Exchange :=
  exchange day .nil "PATCH" ("/api/v1/workspaces/" ++ segment) "\x7b\"name\":\"two\"\x7d"

theorem a_good_name_is_answered_alike_under_both :
    ∃ p q,
      (Sample.renaming 1 "x").run Sample.config Store.empty = (.ok p, Store.empty) ∧
      (Sample.renaming 2 "00000000000000000000000000000000").run Sample.config Store.empty =
        (.ok q, Store.empty) ∧
      p.SameBut q (Sample.renaming 1 "x").occasion.now
        (Sample.renaming 2 "00000000000000000000000000000000").occasion.now := by
  have hnobody : ∀ v : Uuid, ¬ v.Spelling (Percent.decode (Octets.ofString "x")) := by
    intro v hv
    have hnone : Uuid.ofOctets? (Percent.decode (Octets.ofString "x")) = none := by decide +kernel
    rw [← Uuid.ofOctets?_eq_some_iff, hnone] at hv
    cases hv
  have hnil : Uuid.nil.Spelling (Percent.decode (Octets.ofString
      "00000000000000000000000000000000")) :=
    (Uuid.ofOctets?_eq_some_iff _ _).1 (by decide +kernel)
  obtain ⟨p, q, hp, hq, hsame, _⟩ :=
    an_unspelled_id_is_answered_as_an_unknown_one_unless_a_field_breaks_its_rule Sample.config
      (Sample.renaming 1 "x") (Sample.renaming 2 "00000000000000000000000000000000") Store.empty
      (Octets.ofString "x") (Octets.ofString "00000000000000000000000000000000") .nil rfl (.inl rfl)
      rfl (by decide +kernel) (by decide +kernel) (by decide +kernel) hnobody (by decide +kernel)
      (by decide +kernel) hnil rfl
  exact ⟨p, q, hp, hq, hsame (by decide +kernel)⟩

end Workspaces.Http

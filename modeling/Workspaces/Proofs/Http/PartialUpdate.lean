-- Partial updates from the request to the store: what the members of a body say of a workspace is
-- what becomes of it.
import Workspaces.Proofs.Http.Reads
import Workspaces.Proofs.Workspace.Amendment

namespace Workspaces.Http

/-! ## Bodies -/

/-- What is read of a request is taken from the front of its body. -/
theorem Request.take_of_json {α : Type} {reader : Json.Reader α} {r : Request} {a : α}
    (h : r.json reader = .ok a) : ∃ rest, reader r.body = .ok (a, rest) := by
  unfold Request.json at h
  split at h
  · cases h
  · split at h
    · cases h
    · split at h
      · rename_i y rest hread
        obtain rfl := Except.ok.inj h
        exact ⟨rest, hread⟩
      · split at h <;> cases h

/-! ## Revisions -/

namespace Server

variable (c : Config) (x : Exchange) (s : Store)

theorem run_of_revision {segment : Octets}
    (hmethod : x.request.method = "PATCH" ∨ x.request.method = "PUT")
    (hroute : Route.ofApiPath? x.request.target.path = some (.item segment)) :
    x.run c s = (((update x.occasion segment x.request).run x.outage s).1.map (dress c x),
      ((update x.occasion segment x.request).run x.outage s).2) := by
  rcases hmethod with hmethod | hmethod
  · rw [run_of_route x s c (by simp [hmethod]) hroute]
    simp only [handle, hmethod]
  · rw [run_of_route x s c (by simp [hmethod]) hroute]
    simp only [handle, hmethod]

/-- The revision that a body is read as is behind every success. -/
theorem revision_of_success {id : Uuid} {p : Response}
    (hmethod : x.request.method = "PATCH" ∨ x.request.method = "PUT")
    (haddresses : x.request.Addresses id) (hrun : (x.run c s).1 = .ok p)
    (hstatus : p.status = 200) :
    ∃ r w, x.request.json Revision.shape.take = .ok r ∧ r.check = .ok () ∧ s.find? id = some w ∧
      p.Conveys (if r.isEmpty then w else (r.changes x.occasion.now).apply w).toJson ∧
      (x.run c s).2.find? id =
        some (if r.isEmpty then w else (r.changes x.occasion.now).apply w) := by
  have hrefused : ∀ fault : Fault,
      (Except.ok (dress c x (.ofFault fault x.occasion.now)) : Outcome) ≠ .ok p := by
    intro fault hp
    have hfault : fault.status = p.status := by rw [← Except.ok.inj hp]; rfl
    have hge := fault_status_ge fault
    omega
  obtain ⟨segment, hroute, hid⟩ := haddresses
  rw [run_of_revision c x s hmethod hroute] at hrun ⊢
  unfold update at hrun ⊢
  simp only [hid] at hrun ⊢
  cases hjson : x.request.json Revision.shape.take with
  | error fault =>
    rw [hjson] at hrun
    exact absurd hrun (hrefused fault.fault)
  | ok r =>
    simp only [hjson, withId, hid] at hrun ⊢
    rw [Dialogue.run_map] at hrun ⊢
    rcases Service.update_result x.outage s x.occasion.now id r with
      ⟨fault, hupdate⟩ | ⟨w, hfind, hcheck, ⟨hempty, hupdate⟩ | ⟨hempty, hupdate⟩⟩
    · rw [hupdate] at hrun
      exact absurd hrun (hrefused fault)
    · rw [hupdate] at hrun ⊢
      obtain rfl := Except.ok.inj hrun
      refine ⟨r, w, rfl, hcheck, hfind, ?_⟩
      rw [if_pos hempty]
      exact ⟨⟨_, _, rfl, rfl⟩, hfind⟩
    · rw [hupdate] at hrun ⊢
      obtain rfl := Except.ok.inj hrun
      refine ⟨r, w, rfl, hcheck, hfind, ?_⟩
      rw [hempty]
      refine ⟨⟨_, _, rfl, rfl⟩, ?_⟩
      change (s.modify id _).find? id = _
      rw [Store.find?_modify, if_pos rfl, hfind]
      rfl

end Server

theorem Outcome.ok_of_status? {outcome : Outcome} {n : Nat} (h : status? outcome = some n) :
    ∃ p, outcome = .ok p ∧ p.status = n := by
  cases outcome with
  | error fault => cases h
  | ok p => exact ⟨p, rfl, Option.some.inj h⟩

/-! ## The law -/

/-- A request for the revision of a workspace, with an object of these members as its body. -/
structure Request.Revises (r : Request) (id : Uuid) (ms : List Json.Entry) : Prop where
  method : r.method = "PATCH" ∨ r.method = "PUT"
  addresses : r.Addresses id
  body : Json.IsObject ms r.body

/-- A workspace after a success is what the members of the body say of it. -/
theorem amended_of_success (c : Config) (x : Exchange) (s : Store) {id : Uuid} {w : Workspace}
    {ms : List Json.Entry} {p : Response} (hrequest : x.request.Revises id ms)
    (hfind : s.find? id = some w) (hrun : (x.run c s).1 = .ok p) (hstatus : p.status = 200) :
    ∃ w', p.Conveys w'.toJson ∧ (x.run c s).2.find? id = some w' ∧
      w.Amended (Json.valuesOf ms) x.occasion.now w' := by
  obtain ⟨r, v, hjson, hcheck, hv, htold, hkept⟩ :=
    Server.revision_of_success c x s hrequest.method hrequest.addresses hrun hstatus
  obtain rfl := Option.some.inj (hfind.symm.trans hv)
  obtain ⟨u, htake⟩ := Request.take_of_json hjson
  have hsays := Revision.says_of_take (hrequest.body.gives fieldNames) htake
  exact ⟨_, htold, hkept, Revision.amended_of_says hsays hcheck x.occasion.now w⟩

/-- Whichever calls of the store fail, a revision that succeeds with an object as its body makes of
the workspace what the members of that object say, and answers with it. Under another name they say
nothing: an object that says the same under the names of the fields comes to the same. -/
theorem a_revision_changes_what_its_body_gives (c : Config) (x : Exchange) (s : Store) (id : Uuid)
    (w : Workspace) (ms : List Json.Entry) (p : Response) (hrequest : x.request.Revises id ms)
    (hfind : s.find? id = some w) (hrun : (x.run c s).1 = .ok p) (hstatus : p.status = 200) :
    ∃ w', p.Conveys w'.toJson ∧ (x.run c s).2.find? id = some w' ∧
      w.Amended (Json.valuesOf ms) x.occasion.now w' ∧
      ∀ (y : Exchange) (ms' : List Json.Entry) (q : Response), y.request.Revises id ms' →
        y.occasion.now = x.occasion.now →
        (∀ key ∈ ["name", "description", "icon", "color", "state"],
          Json.valuesOf ms key = Json.valuesOf ms' key) →
        (y.run c s).1 = .ok q → q.status = 200 →
        q.Conveys w'.toJson ∧ (y.run c s).2.find? id = some w' := by
  obtain ⟨w', htold, hkept, hamended⟩ := amended_of_success c x s hrequest hfind hrun hstatus
  refine ⟨w', htold, hkept, hamended, ?_⟩
  intro y ms' q hrequest' hnow hvalues hrun' hstatus'
  obtain ⟨v, htold', hkept', hamended'⟩ := amended_of_success c y s hrequest' hfind hrun' hstatus'
  rw [hnow] at hamended'
  obtain rfl := hamended.unique hamended' hvalues
  exact ⟨htold', hkept'⟩

/-- A workspace is given a new name, and something is said that no field is there for. -/
def Sample.revision : Exchange :=
  exchange 2 .nil "PATCH" "/api/v1/workspaces/00000000000000000000000000000001"
    "\x7b\"name\":\" two \",\"x\":null\x7d"

def Sample.members : List Json.Entry :=
  [⟨0x22 :: (Octets.ofString "name" ++ [0x22]), 0x22 :: (Octets.ofString " two " ++ [0x22])⟩,
    ⟨0x22 :: (Octets.ofString "x" ++ [0x22]), [0x6E, 0x75, 0x6C, 0x6C]⟩]

theorem Sample.revises : revision.request.Revises ⟨1⟩ members where
  method := .inl rfl
  addresses :=
    ⟨Octets.ofString "00000000000000000000000000000001", by decide +kernel, by decide +kernel⟩
  body := by
    have hnone : Json.IsBlanks [] := List.forall_mem_nil _
    have hname := Json.IsString.of_plain (Octets.ofString "name") (by decide +kernel)
    have htwo := Json.IsString.of_plain (Octets.ofString " two ") (by decide +kernel)
    have hx := Json.IsString.of_plain (Octets.ofString "x") (by decide +kernel)
    have hbody : Json.IsObject members _ := .braces hnone
      (.first (.entry hnone (.member hname hnone) hnone (.string htwo))
        (.next hnone (.entry hnone (.member hx hnone) hnone .null) (.last hnone))) hnone
    exact Eq.mp (congrArg (Json.IsObject members) (by decide +kernel)) hbody

theorem a_name_is_revised_beside_what_no_field_is_for :
    ∃ w', (Sample.revision.run Sample.config
        (Sample.creation.run Sample.config Store.empty).2).2.find? ⟨1⟩ = some w' ∧
      w'.name = "two" ∧ w'.updatedAt = Sample.revision.occasion.now := by
  have hstatus : Outcome.status? (Sample.revision.run Sample.config
      (Sample.creation.run Sample.config Store.empty).2).1 = some 200 := by
    decide +kernel
  have hthere : ((Sample.creation.run Sample.config Store.empty).2.find? ⟨1⟩).isSome = true := by
    decide +kernel
  obtain ⟨p, hp, hp'⟩ := Outcome.ok_of_status? hstatus
  obtain ⟨w, hw⟩ := Option.isSome_iff_exists.1 hthere
  obtain ⟨w', _, hkept, hamended, _⟩ := a_revision_changes_what_its_body_gives Sample.config
    Sample.revision (Sample.creation.run Sample.config Store.empty).2 ⟨1⟩ w Sample.members p
    Sample.revises hw hp hp'
  have hname : Json.valuesOf Sample.members "name" = [some (.string " two ")] := by decide +kernel
  refine ⟨w', hkept, ?_, hamended.touched (.inl ?_)⟩
  · have htrimmed : Text.trim " two " = "two" := by decide +kernel
    have hafter := hamended.name
    rw [hname] at hafter
    exact (Option.some.inj hafter).symm.trans htrimmed
  · rw [hname]
    simp [GivesMore]

end Workspaces.Http

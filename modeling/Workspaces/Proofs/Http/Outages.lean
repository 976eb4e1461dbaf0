-- Calls of the store that fail, and who hears of it. A request on the path of workspaces makes its
-- calls only when nothing is wrong with it, and at the first that fails it gives up. So an answer
-- tells of that fault, or it is the one that a store without faults would have led to.
import Workspaces.Proofs.Http.Decisions
import Workspaces.Proofs.Http.Discretion
import Workspaces.Proofs.Service.Faults

namespace Workspaces.Http

/-! ## Requests and the calls they take -/

namespace Route

theorem mem_methods (route : Route) : "GET" ∈ route.methods ∧ "HEAD" ∈ route.methods := by
  cases route <;> simp [methods]

theorem mem_methods_collection {method : String} (h : method ∈ collection.methods) :
    (method = "GET" ∨ method = "HEAD") ∨ method = "POST" := by
  simpa [methods, or_assoc] using h

theorem mem_methods_item {segment : Octets} {method : String}
    (h : method ∈ (item segment).methods) :
    (method = "GET" ∨ method = "HEAD") ∨ (method = "PATCH" ∨ method = "PUT") ∨
      method = "DELETE" := by
  simpa [methods, or_assoc] using h

end Route

/-- A body is at fault, or what is read from it keeps the rules. -/
theorem Request.faulty_or_sound {α : Type} (reader : Json.Reader α) (given : α → Given)
    (r : Request) : r.Faulty reader given ∨
      ∃ a, r.json reader = .ok a ∧ ∀ field code, ¬ (given a).Breaks field code := by
  cases read : r.json reader with
  | error fault => exact .inl (.body read)
  | ok a =>
    by_cases hbreaks : ∃ field code, (given a).Breaks field code
    · obtain ⟨field, code, breaks⟩ := hbreaks
      exact .inl (.value read breaks)
    · exact .inr ⟨a, rfl, fun field code breaks => hbreaks ⟨field, code, breaks⟩⟩

/-- The path is that of all workspaces or of one. -/
def Request.AboutWorkspaces (r : Request) : Prop :=
  Route.ofApiPath? r.target.path = some .collection ∨
    ∃ segment, Route.ofApiPath? r.target.path = some (.item segment)

/-- Something is wrong with the request itself: its body or a value in it, the id in its path, or
the window that its query asks for. -/
inductive Request.Refused (r : Request) : Prop
  | draft (method : r.method = "POST") (path : Route.ofApiPath? r.target.path = some .collection)
      (faulty : r.Faulty Draft.shape.take Draft.given)
  | revision {segment : Octets} (method : r.method = "PATCH" ∨ r.method = "PUT")
      (path : Route.ofApiPath? r.target.path = some (.item segment))
      (faulty : r.Faulty Revision.shape.take Revision.given)
  | id {segment : Octets} (method : r.method ∈ (Route.item segment).methods)
      (path : Route.ofApiPath? r.target.path = some (.item segment))
      (nobody : ∀ id, pathId? segment ≠ some (some id))
  | window (method : r.method = "GET" ∨ r.method = "HEAD")
      (path : Route.ofApiPath? r.target.path = some .collection) (none : ∀ w, ¬ r.Asks w)

/-- A revision that keeps every field, if need be by null. -/
def keepAll : Revision := ⟨none, .keep, .keep, .keep, none⟩

theorem isEmpty_iff_keepAll (r : Revision) : r.isEmpty = true ↔ r = keepAll := by
  rw [Revision.isEmpty_iff]
  obtain ⟨name, description, icon, color, state⟩ := r
  simp [keepAll]

/-- The calls of the store that a request takes, one after another. -/
inductive Exchange.Takes (x : Exchange) : List StoreCall → Prop
  | refused (refused : x.request.Refused) : Takes x []
  | unserved {route : Route} (path : Route.ofApiPath? x.request.target.path = some route)
      (method : x.request.method ∉ route.methods) : Takes x []
  | create {d : Draft} (method : x.request.method = "POST")
      (path : Route.ofApiPath? x.request.target.path = some .collection)
      (read : x.request.json Draft.shape.take = .ok d)
      (sound : ∀ field code, ¬ d.given.Breaks field code) :
      Takes x [.insert (d.workspace x.occasion.toOccasion)]
  | get {id : Uuid} (method : x.request.method = "GET" ∨ x.request.method = "HEAD")
      (addresses : x.request.Addresses id) : Takes x [.find id]
  | keep {id : Uuid} (method : x.request.method = "PATCH" ∨ x.request.method = "PUT")
      (addresses : x.request.Addresses id)
      (read : x.request.json Revision.shape.take = .ok keepAll) : Takes x [.find id]
  | update {id : Uuid} {r : Revision}
      (method : x.request.method = "PATCH" ∨ x.request.method = "PUT")
      (addresses : x.request.Addresses id) (read : x.request.json Revision.shape.take = .ok r)
      (some : r ≠ keepAll) (sound : ∀ field code, ¬ r.given.Breaks field code) :
      Takes x [.update id (r.changes x.occasion.now)]
  | delete {id : Uuid} (method : x.request.method = "DELETE")
      (addresses : x.request.Addresses id) : Takes x [.delete id]
  | list {w : Window} (method : x.request.method = "GET" ∨ x.request.method = "HEAD")
      (path : Route.ofApiPath? x.request.target.path = some .collection)
      (asks : x.request.Asks w) : Takes x [.list w.skip w.limit, .count]

theorem Exchange.exists_takes_collection (x : Exchange)
    (path : Route.ofApiPath? x.request.target.path = some .collection) :
    ∃ calls, x.Takes calls := by
  by_cases served : x.request.method ∈ Route.collection.methods
  · rcases Route.mem_methods_collection served with method | method
    · by_cases hasks : ∃ w, x.request.Asks w
      · obtain ⟨w, asks⟩ := hasks
        exact ⟨_, .list method path asks⟩
      · exact ⟨_, .refused (.window method path fun w asks => hasks ⟨w, asks⟩)⟩
    · rcases x.request.faulty_or_sound Draft.shape.take Draft.given with
        faulty | ⟨d, read, sound⟩
      · exact ⟨_, .refused (.draft method path faulty)⟩
      · exact ⟨_, .create method path read sound⟩
  · exact ⟨_, .unserved path served⟩

theorem Exchange.exists_takes_item (x : Exchange) {segment : Octets}
    (path : Route.ofApiPath? x.request.target.path = some (.item segment)) :
    ∃ calls, x.Takes calls := by
  by_cases served : x.request.method ∈ (Route.item segment).methods
  · by_cases hid : ∃ id, pathId? segment = some (some id)
    · obtain ⟨id, hid⟩ := hid
      have addresses : x.request.Addresses id := ⟨segment, path, hid⟩
      rcases Route.mem_methods_item served with method | method | method
      · exact ⟨_, .get method addresses⟩
      · rcases x.request.faulty_or_sound Revision.shape.take Revision.given with
          faulty | ⟨r, read, sound⟩
        · exact ⟨_, .refused (.revision method path faulty)⟩
        · by_cases hkeeps : r = keepAll
          · subst hkeeps
            exact ⟨_, .keep method addresses read⟩
          · exact ⟨_, .update method addresses read hkeeps sound⟩
      · exact ⟨_, .delete method addresses⟩
    · exact ⟨_, .refused (.id served path fun id h => hid ⟨id, h⟩)⟩
  · exact ⟨_, .unserved path served⟩

/-- Every request on these paths is refused, not served at all, or asks for something. -/
theorem Exchange.exists_takes (x : Exchange) (h : x.request.AboutWorkspaces) :
    ∃ calls, x.Takes calls := by
  rcases h with path | ⟨segment, path⟩
  · exact x.exists_takes_collection path
  · exact x.exists_takes_item path

/-! ## Refusals -/

namespace Server

/-- The answer is an error of the client, and no call is made for it. -/
def Refuses (d : Dialogue Outcome) : Prop :=
  ∃ p : Response, d = .answer (.ok p) ∧ 400 ≤ p.status ∧ p.status < 500

theorem Refuses.map {d : Dialogue Outcome} (h : Refuses d) (f : Response → Response)
    (hstatus : ∀ p, (f p).status = p.status) : Refuses (d.map fun outcome => outcome.map f) := by
  obtain ⟨p, rfl, hlow, hhigh⟩ := h
  exact ⟨f p, rfl, (hstatus p).symm ▸ hlow, (hstatus p).symm ▸ hhigh⟩

variable (o : Occasion) (r : Request) (segment : Octets)

theorem refuses_of_fault {fault : Fault} (h : fault.status = 400 ∨ fault.status = 404) :
    Refuses (.answer (.ok (.ofFault fault o.now))) := by
  refine ⟨_, rfl, ?_⟩
  change 400 ≤ fault.status ∧ fault.status < 500
  omega

theorem refuses_of_bodyFault (fault : BodyFault) :
    Refuses (.answer (.ok (.ofFault fault.fault o.now))) := by
  refine refuses_of_fault o (.inl ?_)
  cases fault <;> rfl

theorem refuses_undecodableId : Refuses (.answer (.ok undecodableId)) :=
  ⟨_, rfl, by decide, by decide⟩

theorem withId_refuses (hnobody : ∀ id, pathId? segment ≠ some (some id))
    (f : Uuid → Dialogue Outcome) : Refuses (withId o segment f) := by
  unfold withId
  split
  · exact refuses_undecodableId
  · exact refuses_of_fault o (.inr rfl)
  · rename_i id hid
    exact absurd hid (hnobody id)

theorem create_refuses (h : r.Faulty Draft.shape.take Draft.given) : Refuses (create o r) := by
  unfold create
  cases h with
  | @body fault refused =>
    rw [refused]
    exact refuses_of_bodyFault o fault
  | @value d field code read breaks =>
    rw [read]
    obtain ⟨message, details, hcheck⟩ := d.verdict_check.refuses breaks
    simp only [Service.create, hcheck]
    exact refuses_of_fault o (.inl rfl)

theorem update_refuses (h : r.Faulty Revision.shape.take Revision.given) :
    Refuses (update o segment r) := by
  unfold update
  split
  · exact refuses_undecodableId
  · cases h with
    | @body fault refused =>
      rw [refused]
      exact refuses_of_bodyFault o fault
    | @value revision field code read breaks =>
      rw [read]
      obtain ⟨message, details, hcheck⟩ := revision.verdict_check.refuses breaks
      simp only [Service.update, hcheck]
      by_cases hid : ∃ id, pathId? segment = some (some id)
      · obtain ⟨id, hid⟩ := hid
        simp only [withId, hid]
        exact refuses_of_fault o (.inl rfl)
      · exact withId_refuses o segment (fun id h => hid ⟨id, h⟩) _

theorem update_refuses_id (hnobody : ∀ id, pathId? segment ≠ some (some id)) :
    Refuses (update o segment r) := by
  unfold update
  split
  · exact refuses_undecodableId
  · split
    · exact refuses_of_bodyFault o _
    · exact withId_refuses o segment hnobody _

theorem list_refuses (h : ∀ w, ¬ r.Asks w) (requestId : Option String) :
    Refuses (list o requestId r) := by
  unfold list
  cases hquery : WindowQuery.ofOctets r.target.query with
  | error fault => exact refuses_of_fault o (.inl rfl)
  | ok q =>
    cases hwindow : Window.ofRequest q.skip q.limit with
    | error fault =>
      simp only [Service.list, hwindow]
      exact refuses_of_fault o (.inl (Window.refusal_status hwindow))
    | ok w => exact absurd ⟨q, hquery, hwindow⟩ (h w)

theorem handle_revision (requestId : Option String)
    (hmethod : r.method = "PATCH" ∨ r.method = "PUT") :
    handle o requestId r (.item segment) = update o segment r := by
  rcases hmethod with hmethod | hmethod
  · simp only [handle, hmethod]
  · simp only [handle, hmethod]

/-- What is answered to GET is answered to HEAD, without the body. -/
theorem handle_refuses_read {route : Route} (requestId : Option String)
    (hmethod : r.method = "GET" ∨ r.method = "HEAD") (h : Refuses (getRoute o requestId r route)) :
    Refuses (handle o requestId r route) := by
  rcases hmethod with hmethod | hmethod
  · simp only [handle, hmethod]
    exact h
  · simp only [handle, hmethod]
    exact h.map _ fun _ => rfl

theorem handle_refuses (requestId : Option String) (h : r.Refused) :
    ∃ route, r.method ∈ route.methods ∧ Route.ofApiPath? r.target.path = some route ∧
      Refuses (handle o requestId r route) := by
  cases h with
  | draft method path faulty =>
    refine ⟨_, by simp [method, Route.methods], path, ?_⟩
    simp only [handle, method]
    exact create_refuses o r faulty
  | @revision segment method path faulty =>
    refine ⟨_, by rcases method with method | method <;> simp [method, Route.methods], path, ?_⟩
    rw [handle_revision o r segment requestId method]
    exact update_refuses o r segment faulty
  | @id segment method path nobody =>
    refine ⟨_, method, path, ?_⟩
    rcases Route.mem_methods_item method with method | method | method
    · exact handle_refuses_read o r requestId method (withId_refuses o segment nobody _)
    · rw [handle_revision o r segment requestId method]
      exact update_refuses_id o r segment nobody
    · simp only [handle, method]
      exact withId_refuses o segment nobody _
  | window method path none =>
    refine ⟨_, by rcases method with method | method <;> simp [method, Route.methods], path, ?_⟩
    exact handle_refuses_read o r requestId method (list_refuses o r none requestId)

end Server

/-! ## Whole exchanges -/

/-- The answer that tells of a fault. -/
def Exchange.tell (x : Exchange) (fault : Fault) : Response :=
  if x.request.method = "HEAD" then (Response.ofFault fault x.occasion.now).withoutBody
  else .ofFault fault x.occasion.now

theorem Exchange.tell_eq (x : Exchange) (h : x.request.method ≠ "HEAD") (fault : Fault) :
    x.tell fault = .ofFault fault x.occasion.now := if_neg h

namespace Server

open Dialogue (Makes)

variable (c : Config) (x : Exchange)

/-- What the routes of workspaces make of a request is what comes of it. -/
theorem serve_of_route {route : Route} (hmethod : x.request.method ≠ "OPTIONS")
    (hroute : Route.ofApiPath? x.request.target.path = some route) :
    serve c x.occasion x.request =
      (handle x.occasion (some (RequestId.choose x.request x.occasion.freshRequestId)) x.request
        route).map fun outcome => outcome.map (dress c x) := by
  have hpath : Route.ofPath? c.docsEnabled x.request.target.path = some route := by
    unfold Route.ofPath?
    rw [hroute]
    rfl
  rw [serve_eq]
  simp only [hpath, if_neg hmethod]
  rfl

theorem not_options {r : Request} {route : Route} (h : r.method ∈ route.methods) :
    r.method ≠ "OPTIONS" := by
  intro hoptions
  rw [hoptions] at h
  cases route <;> simp [Route.methods] at h

theorem serve_refuses (h : x.request.Refused) : Refuses (serve c x.occasion x.request) := by
  obtain ⟨route, hmethod, hroute, hrefuses⟩ := handle_refuses x.occasion x.request
    (some (RequestId.choose x.request x.occasion.freshRequestId)) h
  rw [serve_of_route c x (not_options hmethod) hroute]
  exact hrefuses.map _ fun _ => rfl

theorem handle_of_unserved {route : Route} (o : Occasion) (requestId : Option String) {r : Request}
    (h : r.method ∉ route.methods) :
    handle o requestId r route = .answer (.ok (methodNotAllowed route)) := by
  unfold handle
  split
  · rename_i hmethod
    exact absurd (hmethod ▸ (Route.mem_methods _).1) h
  · rename_i hmethod
    exact absurd (hmethod ▸ (Route.mem_methods _).2) h
  · rename_i hmethod
    exact absurd (by simp [hmethod, Route.methods]) h
  · rename_i hmethod
    exact absurd (by simp [hmethod, Route.methods]) h
  · rename_i hmethod
    exact absurd (by simp [hmethod, Route.methods]) h
  · rename_i hmethod
    exact absurd (by simp [hmethod, Route.methods]) h
  · rfl

/-- A method that the route does not allow is answered at once, OPTIONS by what it allows. -/
theorem serve_of_unserved {route : Route}
    (hroute : Route.ofApiPath? x.request.target.path = some route)
    (hmethod : x.request.method ∉ route.methods) :
    ∃ p, serve c x.occasion x.request = .answer (.ok p) := by
  by_cases hoptions : x.request.method = "OPTIONS"
  · rw [serve_eq]
    simp only [if_pos hoptions]
    exact ⟨_, rfl⟩
  · rw [serve_of_route c x hoptions hroute, handle_of_unserved _ _ hmethod]
    exact ⟨_, rfl⟩

/-- What a route makes of GET it makes of HEAD, except that nothing has a body. -/
theorem makes_read {route : Route} {calls : List StoreCall}
    (hmethod : x.request.method = "GET" ∨ x.request.method = "HEAD")
    (hroute : Route.ofApiPath? x.request.target.path = some route)
    (h : Makes (fun fault => .ok (.ofFault fault x.occasion.now)) calls (getRoute x.occasion
      (some (RequestId.choose x.request x.occasion.freshRequestId)) x.request route)) :
    Makes (fun fault => .ok (dress c x (x.tell fault))) calls
      (serve c x.occasion x.request) := by
  rcases hmethod with hmethod | hmethod
  · have htell := x.tell_eq (by simp [hmethod])
    rw [serve_of_route c x (by simp [hmethod]) hroute]
    simp only [handle, hmethod]
    exact h.map _ fun fault => by rw [htell]; rfl
  · rw [serve_of_route c x (by simp [hmethod]) hroute]
    simp only [handle, hmethod]
    refine (h.map _ fun _ => rfl).map _ fun fault => ?_
    rw [Exchange.tell, if_pos hmethod]
    rfl

/-- Any other method is answered as its handler answers. -/
theorem makes_write {route : Route} {calls : List StoreCall}
    (hmethod : x.request.method ∈ ["POST", "PATCH", "PUT", "DELETE"])
    (hroute : Route.ofApiPath? x.request.target.path = some route)
    (h : Makes (fun fault => .ok (.ofFault fault x.occasion.now)) calls (handle x.occasion
      (some (RequestId.choose x.request x.occasion.freshRequestId)) x.request route)) :
    Makes (fun fault => .ok (dress c x (x.tell fault))) calls
      (serve c x.occasion x.request) := by
  have hhead : x.request.method ≠ "HEAD" := by
    rintro hhead
    simp [hhead] at hmethod
  have hoptions : x.request.method ≠ "OPTIONS" := by
    rintro hoptions
    simp [hoptions] at hmethod
  rw [serve_of_route c x hoptions hroute]
  exact h.map _ fun fault => by rw [x.tell_eq hhead]; rfl

/-- A revision under an id makes the calls that the service makes for it. -/
theorem makes_revision {id : Uuid} {r : Revision} {calls : List StoreCall}
    (hmethod : x.request.method = "PATCH" ∨ x.request.method = "PUT")
    (haddresses : x.request.Addresses id) (hread : x.request.json Revision.shape.take = .ok r)
    (h : Makes .error calls (Service.update x.occasion.now id r)) :
    Makes (fun fault => .ok (dress c x (x.tell fault))) calls
      (serve c x.occasion x.request) := by
  obtain ⟨segment, hroute, hid⟩ := haddresses
  refine makes_write c x (by rcases hmethod with h | h <;> simp [h]) hroute ?_
  rw [handle_revision _ _ _ _ hmethod]
  simp only [Server.update, withId, hid, hread]
  exact h.map _ fun _ => rfl

/-- Whichever calls a request takes, they are made, and a fault among them is told. -/
theorem makes_of_takes {calls : List StoreCall} (h : x.Takes calls) :
    Makes (fun fault => .ok (dress c x (x.tell fault))) calls
      (serve c x.occasion x.request) := by
  cases h with
  | refused refused =>
    obtain ⟨p, hserve, _⟩ := serve_refuses c x refused
    rw [hserve]
    exact .answer _
  | unserved path method =>
    obtain ⟨p, hserve⟩ := serve_of_unserved c x path method
    rw [hserve]
    exact .answer _
  | @create d method path read sound =>
    refine makes_write c x (by simp [method]) path ?_
    simp only [handle, method, Server.create, read]
    exact (Service.create_makes _ (d.verdict_check.accepts sound)).map _ fun _ => rfl
  | get method addresses =>
    obtain ⟨segment, path, hid⟩ := addresses
    refine makes_read c x method path ?_
    simp only [getRoute, Server.get, withId, hid]
    exact (Service.get_makes _).map _ fun _ => rfl
  | keep method addresses read =>
    exact makes_revision c x method addresses read
      (Service.update_makes_find _ _ rfl ((isEmpty_iff_keepAll _).2 rfl))
  | @update id r method addresses read some sound =>
    refine makes_revision c x method addresses read (Service.update_makes _ _ ?_ ?_)
    · exact r.verdict_check.accepts sound
    · exact fun hempty => some ((isEmpty_iff_keepAll r).1 hempty)
  | delete method addresses =>
    obtain ⟨segment, path, hid⟩ := addresses
    refine makes_write c x (by simp [method]) path ?_
    simp only [handle, method, Server.delete, withId, hid]
    exact (Service.delete_makes _).map _ fun _ => rfl
  | list method path asks =>
    obtain ⟨q, hquery, hwindow⟩ := asks
    refine makes_read c x method path ?_
    simp only [getRoute, Server.list, hquery]
    exact (Service.list_makes hwindow).map _ fun _ => rfl

end Server

/-! ## The law -/

/-- The calls of the store that an exchange makes. -/
def Exchange.calls (c : Config) (x : Exchange) (s : Store) : List StoreCall :=
  (Server.serve c x.occasion x.request).calls x.outage s

/-- How an exchange that takes these calls fares with the faults of the store. -/
inductive Exchange.Fares (c : Config) (x : Exchange) (s : Store) (calls : List StoreCall) : Prop
  | calm (calm : ∀ call ∈ calls, x.outage call.kind = none) (made : x.calls c s = calls)
      (same : x.run c s = (x.under Outage.none).run c s) : Fares c x s calls
  | stopped {before after : List StoreCall} {call : StoreCall} {fault : Fault}
      (split : calls = before ++ call :: after)
      (calm : ∀ earlier ∈ before, x.outage earlier.kind = none)
      (fails : x.outage call.kind = some fault) (made : x.calls c s = before ++ [call])
      (told : x.run c s = (.ok (Server.dress c x (x.tell fault)), s)) : Fares c x s calls

/-- No call fails, or one is the first that does. -/
theorem calm_or_first_fault (outage : Outage) (calls : List StoreCall) :
    (∀ call ∈ calls, outage call.kind = none) ∨
      ∃ before call after fault, calls = before ++ call :: after ∧
        (∀ earlier ∈ before, outage earlier.kind = none) ∧ outage call.kind = some fault := by
  cases hfirst : calls.find? fun call => (outage call.kind).isSome with
  | none =>
    refine .inl fun call hcall => ?_
    simpa using List.find?_eq_none.1 hfirst call hcall
  | some call =>
    obtain ⟨hfails, before, after, hsplit, hbefore⟩ := List.find?_eq_some_iff_append.1 hfirst
    obtain ⟨fault, hfault⟩ := Option.isSome_iff_exists.1 hfails
    exact .inr ⟨before, call, after, fault, hsplit,
      fun earlier hearlier => by simpa using hbefore earlier hearlier, hfault⟩

theorem Exchange.fares_of_takes {x : Exchange} {calls : List StoreCall} (h : x.Takes calls)
    (c : Config) (s : Store) : x.Fares c s calls := by
  have hmakes := Server.makes_of_takes c x h
  rcases calm_or_first_fault x.outage calls with
    hcalm | ⟨before, call, after, fault, rfl, hbefore, hfault⟩
  · obtain ⟨hmade, hrun⟩ := hmakes.run_of_calm hcalm s
    exact .calm hcalm (hmade.trans (hmakes.calls_eq s)) hrun
  · obtain ⟨hmade, hrun⟩ := hmakes.run_of_fault hbefore hfault s
    exact .stopped rfl hbefore hfault hmade hrun

/-- Whatever is asked on the paths of workspaces, whatever the store holds and whichever of its
calls fail: what is asked takes certain calls, and these alone. If none of them fails the answer and
the store are those that a store without faults leads to, and else the first that fails is the last
that is made and its fault is told. A request that is refused for what it says takes no call, so it
is told the same whatever the store is like. -/
theorem store_faults_are_told_where_they_are_reached (c : Config) (x : Exchange) (s : Store)
    (h : x.request.AboutWorkspaces) :
    ∃ calls, (∀ others, x.Takes others ↔ others = calls) ∧ x.Fares c s calls ∧
      (x.request.Refused → calls = [] ∧ ∃ p : Response, 400 ≤ p.status ∧ p.status < 500 ∧
        ∀ outage s', (x.under outage).run c s' = (.ok p, s')) := by
  obtain ⟨calls, htakes⟩ := x.exists_takes h
  have honly : ∀ others, x.Takes others → others = calls := by
    intro others hothers
    rw [← (Server.makes_of_takes c x hothers).calls_eq s]
    exact (Server.makes_of_takes c x htakes).calls_eq s
  refine ⟨calls, fun others => ⟨honly others, ?_⟩, Exchange.fares_of_takes htakes c s, ?_⟩
  · rintro rfl
    exact htakes
  · intro hrefused
    obtain ⟨p, hserve, hlow, hhigh⟩ := Server.serve_refuses c x hrefused
    refine ⟨(honly [] (.refused hrefused)).symm, p, hlow, hhigh, fun outage s' => ?_⟩
    change (Server.serve c x.occasion x.request).run outage s' = _
    rw [hserve]
    rfl

/-- A page is asked for by HEAD, and the workspaces cannot be counted. -/
def Sample.uncounted : Exchange :=
  (exchange 5 ⟨5⟩ "HEAD" "/api/v1/workspaces?limit=101&skip=1" "").under fun
    | .count => some (.pool "timed out")
    | _ => none

/-- A revision with a list for a state, while no call of the store is carried out. -/
def Sample.misshapen : Exchange :=
  (exchange 5 ⟨5⟩ "PUT" "/api/v1/workspaces/00000000-0000-0000-0000-000000000001"
    "\x7b\"name\":null,\"state\":[1]\x7d").under
    fun _ => some (.database (.other "disk full"))

/-- Of two calls, the second fails. -/
theorem a_page_that_cannot_be_counted_is_not_shown :
    Sample.uncounted.request.AboutWorkspaces ∧
    Sample.uncounted.calls Sample.config Sample.stocked = [.list 1 100, .count] ∧
    Sample.uncounted.run Sample.config Sample.stocked =
      (.ok (Server.dress Sample.config Sample.uncounted (Response.ofFault (.pool "timed out")
        Sample.uncounted.occasion.now).withoutBody), Sample.stocked) ∧
    Sample.misshapen.request.AboutWorkspaces ∧ Sample.misshapen.request.Refused ∧
    ∃ p : Response, 400 ≤ p.status ∧ p.status < 500 ∧
      ∀ outage s, (Sample.misshapen.under outage).run Sample.config s = (.ok p, s) := by
  have hlisting : Sample.uncounted.request.AboutWorkspaces := .inl (by decide +kernel)
  obtain ⟨calls, htakes, hfares, _⟩ := store_faults_are_told_where_they_are_reached Sample.config
    Sample.uncounted Sample.stocked hlisting
  obtain rfl : [.list 1 100, .count] = calls :=
    (htakes _).1 (.list (.inr rfl) (by decide +kernel) ⟨⟨some 1, some 101⟩, by decide +kernel, rfl⟩)
  have hroute : Route.ofApiPath? Sample.misshapen.request.target.path =
      some (.item (Octets.ofString "00000000-0000-0000-0000-000000000001")) := by decide +kernel
  have hread : Sample.misshapen.request.json Revision.shape.take =
      .ok ⟨none, .keep, .keep, .keep, some (.array [.int 1])⟩ := by decide +kernel
  have hrefused : Sample.misshapen.request.Refused :=
    .revision (.inr rfl) hroute (.value hread (.state rfl rfl))
  obtain ⟨_, _, _, htold⟩ := store_faults_are_told_where_they_are_reached Sample.config
    Sample.misshapen Sample.stocked (.inr ⟨_, hroute⟩)
  suffices h : Sample.uncounted.calls Sample.config Sample.stocked = [.list 1 100, .count] ∧
      Sample.uncounted.run Sample.config Sample.stocked =
        (.ok (Server.dress Sample.config Sample.uncounted
          (Sample.uncounted.tell (.pool "timed out"))), Sample.stocked) from
    ⟨hlisting, h.1, h.2, .inr ⟨_, hroute⟩, hrefused, (htold hrefused).2⟩
  cases hfares with
  | calm calm made same => cases calm .count (by simp)
  | @stopped before after call fault split calm fails made told =>
    cases before with
    | nil =>
      cases split
      cases fails
    | cons first before =>
      cases before with
      | nil =>
        cases split
        cases fails
        exact ⟨made, told⟩
      | cons second before =>
        have hlength := congrArg List.length split
        simp at hlength

end Workspaces.Http

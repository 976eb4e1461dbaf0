-- Exchanges: a request with its answer and the store before and after. `Turn` lists what an
-- exchange can come to, and every law of the store under requests is read off it.
import Workspaces.Proofs.Http.Tracking
import Workspaces.Proofs.Service.Results

namespace Workspaces.Http

/-- A request, what it draws on, and the calls of the store that fail meanwhile. -/
structure Exchange where
  outage : Outage
  occasion : Occasion
  request : Request

/-- What comes of an exchange, and the store after it. -/
def Exchange.run (c : Config) (x : Exchange) (s : Store) : Outcome × Store :=
  (Server.serve c x.occasion x.request).run x.outage s

/-! ## Requests and answers -/

namespace Request

/-- Whether the method is one of those that ask for a change. -/
def writes (r : Request) : Bool := ["POST", "PATCH", "PUT", "DELETE"].contains r.method

/-- The path is that of the workspace with this id. -/
def Addresses (r : Request) (id : Uuid) : Prop :=
  ∃ segment, Route.ofApiPath? r.target.path = some (.item segment) ∧
    pathId? segment = some (some id)

end Request

/-- The response is an envelope with these data in it. -/
def Response.Conveys (p : Response) (data : Json) : Prop :=
  ∃ (e : Envelope) (now : Instant), p.body = .text (e.toJson now).text ∧ e.data = some data

namespace Outcome

/-- The status of the answer, if there is an answer. -/
def status? : Outcome → Option Nat
  | .ok p => some p.status
  | .error _ => none

def Succeeds (outcome : Outcome) : Prop :=
  ∃ n, status? outcome = some n ∧ 200 ≤ n ∧ n < 300

end Outcome

theorem fault_status_ge (fault : Fault) : 400 ≤ fault.status := by
  cases fault <;> simp [Fault.status]

/-- An answer that tells of a fault is no success. -/
theorem not_succeeds_ofFault (fault : Fault) (now : Instant) :
    ¬ Outcome.Succeeds (.ok (.ofFault fault now)) := by
  rintro ⟨n, hn, _, hlt⟩
  have hstatus : fault.status = n := Option.some.inj hn
  have := fault_status_ge fault
  omega

/-! ## What an exchange can come to -/

/-- Nothing is written, or one workspace is created, revised or deleted and the answer tells it. -/
inductive Turn (x : Exchange) (s : Store) : Outcome → Store → Prop
  | idle {outcome : Outcome} (calm : Outcome.Succeeds outcome → x.request.writes = false) :
      Turn x s outcome s
  | created {p : Response} (d : Draft) (method : x.request.method = "POST")
      (check : d.check = .ok ())
      (free : s.nameTaken (d.workspace x.occasion.toOccasion).name none = false)
      (status : p.status = 201) (told : p.Conveys (d.workspace x.occasion.toOccasion).toJson) :
      Turn x s (.ok p) (s.put (d.workspace x.occasion.toOccasion))
  /-- An empty revision only shows the workspace. -/
  | shown {p : Response} (id : Uuid) (w : Workspace)
      (method : x.request.method = "PATCH" ∨ x.request.method = "PUT")
      (addresses : x.request.Addresses id) (found : s.find? id = some w)
      (status : p.status = 200) (told : p.Conveys w.toJson) : Turn x s (.ok p) s
  | revised {p : Response} (id : Uuid) (w : Workspace) (r : Revision)
      (method : x.request.method = "PATCH" ∨ x.request.method = "PUT")
      (addresses : x.request.Addresses id) (found : s.find? id = some w)
      (check : r.check = .ok ()) (status : p.status = 200)
      (told : p.Conveys ((r.changes x.occasion.now).apply w).toJson) :
      Turn x s (.ok p) (s.modify id (r.changes x.occasion.now).apply)
  | deleted {p : Response} (id : Uuid) (w : Workspace) (method : x.request.method = "DELETE")
      (addresses : x.request.Addresses id) (found : s.find? id = some w)
      (status : p.status = 200) : Turn x s (.ok p) (s.erase id)

namespace Turn

variable {x : Exchange} {s s' : Store} {outcome : Outcome}

/-- Headers put on an answer are no part of what an exchange comes to. -/
theorem map (f : Response → Response) (hstatus : ∀ p, (f p).status = p.status)
    (hbody : ∀ p, (f p).body = p.body) (h : Turn x s outcome s') :
    Turn x s (outcome.map f) s' := by
  have htold : ∀ {p : Response} {data : Json}, p.Conveys data → (f p).Conveys data := by
    rintro p data ⟨e, now, htext, hdata⟩
    exact ⟨e, now, by rw [hbody, htext], hdata⟩
  cases h with
  | idle calm =>
    refine .idle fun hs => calm ?_
    obtain ⟨n, hn, hrange⟩ := hs
    refine ⟨n, ?_, hrange⟩
    cases outcome with
    | error fault => exact hn
    | ok p => simpa [Outcome.status?, Except.map, hstatus] using hn
  | created d method check free status told =>
    exact .created d method check free (by rw [hstatus, status]) (htold told)
  | shown id w method addresses found status told =>
    exact .shown id w method addresses found (by rw [hstatus, status]) (htold told)
  | revised id w r method addresses found check status told =>
    exact .revised id w r method addresses found check (by rw [hstatus, status]) (htold told)
  | deleted id w method addresses found status =>
    exact .deleted id w method addresses found (by rw [hstatus, status])

/-- An answer that tells of a fault. -/
theorem fault (fault : Fault) (now : Instant) : Turn x s (.ok (.ofFault fault now)) s :=
  .idle fun h => absurd h (not_succeeds_ofFault fault now)

/-- An answer under a status that is no success. -/
theorem refusal {p : Response} (h : 300 ≤ p.status) : Turn x s (.ok p) s := by
  refine .idle fun ⟨n, hn, _, hlt⟩ => ?_
  have hstatus : p.status = n := Option.some.inj hn
  omega

end Turn

/-! ## Handlers -/

namespace Server

variable (x : Exchange) (s : Store)

theorem ofEnvelope_conveys (status : Nat) (e : Envelope) (data : Json) (now : Instant)
    (h : e.data = some data) : (Response.ofEnvelope status e now).Conveys data :=
  ⟨e, now, rfl, h⟩

theorem create_turn (method : x.request.method = "POST") :
    Turn x s ((create x.occasion x.request).run x.outage s).1
      ((create x.occasion x.request).run x.outage s).2 := by
  unfold create
  split
  · exact .fault _ _
  · rename_i draft _
    rw [Dialogue.run_map]
    rcases Service.create_result x.outage s x.occasion.toOccasion draft with
      ⟨fault, hrun⟩ | ⟨hcheck, hfree, hrun⟩
    · rw [hrun]
      exact .fault _ _
    · rw [hrun]
      exact .created draft method hcheck hfree rfl (ofEnvelope_conveys _ _ _ _ rfl)

theorem update_turn (segment : Octets)
    (hroute : Route.ofApiPath? x.request.target.path = some (.item segment))
    (method : x.request.method = "PATCH" ∨ x.request.method = "PUT") :
    Turn x s ((update x.occasion segment x.request).run x.outage s).1
      ((update x.occasion segment x.request).run x.outage s).2 := by
  unfold update
  split
  · exact .refusal (by decide)
  · split
    · exact .fault _ _
    · rename_i revision _
      unfold withId
      split
      · exact .refusal (by decide)
      · exact .fault _ _
      · rename_i id hid
        have addresses : x.request.Addresses id := ⟨segment, hroute, hid⟩
        rw [Dialogue.run_map]
        rcases Service.update_result x.outage s x.occasion.now id revision with
          ⟨fault, hrun⟩ | ⟨w, hfind, hcheck, ⟨_, hrun⟩ | ⟨_, hrun⟩⟩
        · rw [hrun]
          exact .fault _ _
        · rw [hrun]
          exact .shown id w method addresses hfind rfl (ofEnvelope_conveys _ _ _ _ rfl)
        · rw [hrun]
          exact .revised id w revision method addresses hfind hcheck rfl
            (ofEnvelope_conveys _ _ _ _ rfl)

theorem delete_turn (segment : Octets)
    (hroute : Route.ofApiPath? x.request.target.path = some (.item segment))
    (method : x.request.method = "DELETE") :
    Turn x s ((delete x.occasion segment).run x.outage s).1
      ((delete x.occasion segment).run x.outage s).2 := by
  unfold delete withId
  split
  · exact .refusal (by decide)
  · exact .fault _ _
  · rename_i id hid
    rw [Dialogue.run_map]
    rcases Service.delete_result x.outage s id with ⟨fault, hrun⟩ | ⟨w, hfind, hrun⟩
    · rw [hrun]
      exact .fault _ _
    · rw [hrun]
      exact .deleted id w method ⟨segment, hroute, hid⟩ hfind rfl

/-! ## Routes -/

/-- Every route leaves the store as it was when it is only looked at. -/
theorem getRoute_keeps (o : Occasion) (requestId : Option String) (r : Request) (route : Route)
    (outage : Outage) : ((getRoute o requestId r route).run outage s).2 = s := by
  cases route with
  | health =>
    exact StoreCall.runUnder_of_looks outage s (c := .ping) trivial
  | collection =>
    change ((list o requestId r).run outage s).2 = s
    unfold list
    split
    · rfl
    · rw [Dialogue.run_map]
      exact Service.list_keeps outage s _ _
  | item segment =>
    change ((get o segment).run outage s).2 = s
    unfold get withId
    split
    · rfl
    · rfl
    · rw [Dialogue.run_map]
      rcases Service.get_result outage s _ with ⟨_, hrun⟩ | ⟨_, _, hrun⟩ <;> rw [hrun]
  | document | docs | docsPage | reference => rfl

/-- The paths of workspaces are the same whether there is documentation or not. -/
theorem ofPath?_eq_item (docsEnabled : Bool) (path segment : Octets) :
    Route.ofPath? docsEnabled path = some (.item segment) ↔
      Route.ofApiPath? path = some (.item segment) := by
  unfold Route.ofPath?
  rcases hapi : Route.ofApiPath? path with _ | route
  · have hdocs : Route.ofDocsPath? path ≠ some (.item segment) := by
      unfold Route.ofDocsPath?
      split
      · simp
      · split
        · simp
        · split <;> simp
    cases docsEnabled <;> simp [hdocs]
  · simp

theorem handle_turn (requestId : Option String) (route : Route)
    (hroute : ∀ segment, route = .item segment →
      Route.ofApiPath? x.request.target.path = some (.item segment)) :
    Turn x s ((handle x.occasion requestId x.request route).run x.outage s).1
      ((handle x.occasion requestId x.request route).run x.outage s).2 := by
  unfold handle
  split
  · rename_i method
    rw [getRoute_keeps]
    exact .idle fun _ => by simp [Request.writes, method]
  · rename_i method
    rw [Dialogue.run_map, getRoute_keeps]
    exact .idle fun _ => by simp [Request.writes, method]
  · rename_i method
    exact create_turn x s method
  · rename_i segment method
    exact update_turn x s segment (hroute segment rfl) (.inl method)
  · rename_i segment method
    exact update_turn x s segment (hroute segment rfl) (.inr method)
  · rename_i segment method
    exact delete_turn x s segment (hroute segment rfl) method
  · exact .refusal (show 300 ≤ 405 by decide)

/-! ## The whole exchange -/

/-- The headers that every answer carries, put on one. -/
def dress (c : Config) (x : Exchange) (p : Response) : Response :=
  withRequestId (RequestId.choose x.request x.occasion.freshRequestId)
    (p.withHeaders (Cors.headers c x.request))

/-- A preflight is answered on whichever path, and goes no further. -/
theorem run_of_preflight (c : Config) (hmethod : x.request.method = "OPTIONS") :
    x.run c s = (.ok (withRequestId (RequestId.choose x.request x.occasion.freshRequestId)
      (Cors.preflight c x.request
        ((Route.ofPath? c.docsEnabled x.request.target.path).map Route.allow))), s) := by
  unfold Exchange.run
  rw [serve_eq]
  simp only [if_pos hmethod]
  rfl

/-- A path of no route is answered as such. -/
theorem run_of_nowhere (c : Config) (hmethod : x.request.method ≠ "OPTIONS")
    (hroute : Route.ofPath? c.docsEnabled x.request.target.path = none) :
    x.run c s = (.ok (dress c x (routeNotFound x.occasion.now)), s) := by
  unfold Exchange.run
  rw [serve_eq]
  simp only [hroute, if_neg hmethod]
  rfl

/-- On any other path the answer is that of the route. -/
theorem run_of_path (c : Config) {route : Route} (hmethod : x.request.method ≠ "OPTIONS")
    (hroute : Route.ofPath? c.docsEnabled x.request.target.path = some route) :
    x.run c s = (((handle x.occasion (some (RequestId.choose x.request x.occasion.freshRequestId))
        x.request route).run x.outage s).1.map (dress c x),
      ((handle x.occasion (some (RequestId.choose x.request x.occasion.freshRequestId))
        x.request route).run x.outage s).2) := by
  unfold Exchange.run
  rw [serve_eq]
  simp only [hroute, if_neg hmethod]
  rw [Dialogue.run_map]
  rfl

/-- Routes of the interface are the same whether there is documentation or not. -/
theorem run_of_route (c : Config) {route : Route} (hmethod : x.request.method ≠ "OPTIONS")
    (hroute : Route.ofApiPath? x.request.target.path = some route) :
    x.run c s = (((handle x.occasion (some (RequestId.choose x.request x.occasion.freshRequestId))
        x.request route).run x.outage s).1.map (dress c x),
      ((handle x.occasion (some (RequestId.choose x.request x.occasion.freshRequestId))
        x.request route).run x.outage s).2) := by
  apply run_of_path x s c hmethod
  unfold Route.ofPath?
  rw [hroute]
  rfl

/-- Whatever is asked, by whichever method and on whichever path, an exchange is a turn. -/
theorem turn_of_run (c : Config) : Turn x s (x.run c s).1 (x.run c s).2 := by
  by_cases hmethod : x.request.method = "OPTIONS"
  · rw [run_of_preflight x s c hmethod]
    exact .idle fun _ => by simp [Request.writes, hmethod]
  · cases hroute : Route.ofPath? c.docsEnabled x.request.target.path with
    | none =>
      rw [run_of_nowhere x s c hmethod hroute]
      exact .refusal (show 300 ≤ 404 by decide)
    | some route =>
      rw [run_of_path x s c hmethod hroute]
      refine Turn.map (dress c x) (fun _ => rfl) (fun _ => rfl) ?_
      refine handle_turn x s _ route fun segment hitem => ?_
      subst hitem
      exact (ofPath?_eq_item _ _ _).1 hroute

end Server

/-! ## A sample -/

namespace Sample

def config : Config where
  host := "127.0.0.1"
  port := 8080
  corsOrigins := []
  logLevel := "info"
  logFormat := "json"
  databaseUrl := none
  maxConnections := 10
  minConnections := 1
  connectionTimeout := 30
  docsEnabled := true

/-- An exchange on a given day in which every call of the store is carried out. -/
def exchange (day : Nat) (freshId : Uuid) (method target body : String) : Exchange where
  outage := Outage.none
  occasion :=
    { now := ⟨⟨2025, 1, day⟩, 0, 0⟩
      freshId
      freshRequestId := .nil }
  request :=
    { method
      target := .ofOctets (Octets.ofString target)
      headers := [("content-type", Octets.ofString "application/json")]
      body := Octets.ofString body }

/-- A workspace is created. -/
def creation : Exchange :=
  exchange 1 ⟨1⟩ "POST" "/api/v1/workspaces" "\x7b\"name\":\" one \"\x7d"

end Sample

end Workspaces.Http

-- What handlers answer: an envelope that agrees with the status it is sent under, whichever calls
-- of the store fail and whatever they fail with.
import Workspaces.Proofs.Http.Ids
import Workspaces.Proofs.Http.Reads

namespace Workspaces

/-! ## Members -/

/-- The names of the members of an object. -/
def Json.names : Json → List String
  | .object members => members.map (·.1)
  | _ => []

/-- The value is an object that agrees with a status. Its code is the status, and it tells of
success exactly under 200 and 201. With a success there are no errors. With a failure there are
neither data nor metadata, and at least one error, each of which has a code and a message. -/
structure Json.Agrees (v : Json) (status : Nat) : Prop where
  distinct : v.names.Nodup
  code : v.member? "code" = some (.int status)
  success : v.member? "success" = some (.bool (status = 200 ∨ status = 201))
  granted : status = 200 ∨ status = 201 → v.member? "errors" = none
  refused : ¬ (status = 200 ∨ status = 201) →
    v.member? "data" = none ∧ v.member? "meta" = none ∧
      ∃ errors : List Json, v.member? "errors" = some (.array errors) ∧ errors ≠ [] ∧
        ∀ error ∈ errors, ∃ code message,
          error.member? "code" = some (.string code) ∧
          error.member? "message" = some (.string message)

theorem find?_optionalMember {α : Type} (name other : String) (f : α → Json) (x : Option α) :
    (optionalMember name f x).find? (·.1 = other) =
      if name = other then x.map fun a => (name, f a) else none := by
  cases x with
  | none => simp [optionalMember]
  | some a => by_cases h : name = other <;> simp [optionalMember, h]

theorem names_optionalMember {α : Type} (name : String) (f : α → Json) (x : Option α) :
    ((optionalMember name f x).map (·.1)).Sublist [name] := by
  cases x with
  | none => exact List.nil_sublist _
  | some a => exact List.Sublist.refl _

theorem Detail.member?_code (d : Detail) : d.toJson.member? "code" = some (.string d.code) := by
  simp [toJson, Json.member?, List.find?_append, find?_optionalMember]

theorem Detail.member?_message (d : Detail) :
    d.toJson.member? "message" = some (.string d.message) := by
  simp [toJson, Json.member?, List.find?_append, find?_optionalMember]

theorem Metadata.member?_requestId (m : Metadata) :
    m.toJson.member? "request_id" = m.requestId.map .string := by
  cases h : m.requestId <;> simp [toJson, Json.member?, List.find?_append, find?_optionalMember, h]

namespace Envelope

variable (e : Envelope) (now : Instant)

theorem member?_success : (e.toJson now).member? "success" = some (.bool e.success) := by
  simp [toJson, Json.member?]

theorem member?_code : (e.toJson now).member? "code" = some (.int e.code) := by
  simp [toJson, Json.member?]

theorem member?_data : (e.toJson now).member? "data" = e.data := by
  cases h : e.data <;> simp [toJson, Json.member?, List.find?_append, find?_optionalMember, h]

theorem member?_meta : (e.toJson now).member? "meta" = e.metadata.map Metadata.toJson := by
  cases h : e.metadata <;>
    simp [toJson, Json.member?, List.find?_append, find?_optionalMember, h]

theorem member?_errors :
    (e.toJson now).member? "errors" = e.errors.map fun ds => .array (ds.map Detail.toJson) := by
  cases h : e.errors <;> simp [toJson, Json.member?, List.find?_append, find?_optionalMember, h]

/-- The id that an envelope tells is that of its metadata. -/
theorem follow?_requestId {m : Metadata} (h : e.metadata = some m) :
    (e.toJson now).follow? ["meta", "request_id"] = m.requestId.map .string := by
  have hmeta := e.member?_meta now
  rw [h] at hmeta
  calc (e.toJson now).follow? ["meta", "request_id"]
      = ((e.toJson now).member? "meta").bind (·.follow? ["request_id"]) := rfl
    _ = m.toJson.follow? ["request_id"] := by rw [hmeta]; rfl
    _ = (m.toJson.member? "request_id").bind (·.follow? []) := rfl
    _ = m.requestId.map .string := by rw [m.member?_requestId]; cases m.requestId <;> rfl

theorem names_toJson : (e.toJson now).names.Sublist
    ["success", "code", "message", "data", "meta", "errors", "timestamp"] := by
  unfold toJson Json.names
  simp only [List.map_append]
  exact (((List.Sublist.refl ["success", "code", "message"]).append
    (names_optionalMember "data" _ _)).append (names_optionalMember "meta" _ _)).append
    (names_optionalMember "errors" _ _) |>.append (List.Sublist.refl ["timestamp"])

/-! ## Envelopes that fit a status -/

/-- What an envelope has to hold to be sent under a status. -/
structure Fits (status : Nat) : Prop where
  code : e.code = status
  success : e.success = decide (status = 200 ∨ status = 201)
  granted : status = 200 ∨ status = 201 → e.errors = none
  refused : ¬ (status = 200 ∨ status = 201) →
    e.data = none ∧ e.metadata = none ∧ ∃ details, e.errors = some details ∧ details ≠ []

variable {e}

theorem Fits.agrees {status : Nat} (h : e.Fits status) : (e.toJson now).Agrees status where
  distinct := (by decide : List.Nodup _).sublist (e.names_toJson now)
  code := by rw [member?_code, h.code]
  success := by rw [member?_success, h.success]
  granted := by
    intro hgranted
    rw [member?_errors, h.granted hgranted]
    rfl
  refused := by
    intro hrefused
    obtain ⟨hdata, hmeta, details, herrors, hsome⟩ := h.refused hrefused
    refine ⟨?_, ?_, details.map Detail.toJson, ?_, ?_, ?_⟩
    · rw [member?_data, hdata]
    · rw [member?_meta, hmeta]
      rfl
    · rw [member?_errors, herrors]
      rfl
    · simpa using hsome
    · intro error herror
      obtain ⟨d, _, rfl⟩ := List.mem_map.1 herror
      exact ⟨d.code, d.message, d.member?_code, d.member?_message⟩

/-- An envelope of success fits the status that it tells. -/
theorem fits_success {status : Nat} (hstatus : status = 200 ∨ status = 201)
    (hcode : e.code = status) (hsuccess : e.success = true) (herrors : e.errors = none) :
    e.Fits status where
  code := hcode
  success := by rw [hsuccess, decide_eq_true hstatus]
  granted := fun _ => herrors
  refused := fun h => absurd hstatus h

theorem fits_failure {status : Nat} (hstatus : ¬ (status = 200 ∨ status = 201)) (message : String)
    {details : List Detail} (hsome : details ≠ []) :
    (failure status message details).Fits status where
  code := rfl
  success := (decide_eq_false hstatus).symm
  granted := fun h => absurd h hstatus
  refused := fun _ => ⟨rfl, rfl, details, rfl, hsome⟩

/-- Whatever goes wrong, there is an error to tell. -/
theorem fits_ofFault (fault : Fault) : (ofFault fault).Fits fault.status := by
  have hone : ∀ (status : Nat) (message code : String) (field : Option String),
      ¬ (status = 200 ∨ status = 201) → (singleFailure status message code field).Fits status := by
    intro status message code field hstatus
    exact fits_failure hstatus message (List.cons_ne_nil _ _)
  cases fault with
  | validation message details =>
    cases details with
    | nil => exact hone 400 message "BAD_REQUEST" none (by decide)
    | cons d ds => exact fits_failure (by decide) message (List.cons_ne_nil d ds)
  | database | pool | config | internal => exact hone 500 _ "INTERNAL_ERROR" none (by decide)
  | notFound resource => exact hone 404 _ "NOT_FOUND" none (by decide)
  | conflict message field code => exact hone 409 message _ field (by decide)

end Envelope

namespace Http

/-! ## Answers of handlers -/

/-- An envelope is answered, under a status that it fits. -/
def Outcome.Tells (now : Instant) (outcome : Outcome) : Prop :=
  ∃ status e, Envelope.Fits e status ∧ outcome = .ok (.ofEnvelope status e now)

namespace Server

variable (o : Occasion) (r : Request) (outage : Outage) (s : Store)

theorem tells_ofFault (fault : Fault) (now : Instant) :
    Outcome.Tells now (.ok (.ofFault fault now)) :=
  ⟨_, _, Envelope.fits_ofFault fault, rfl⟩

/-- What comes of a service request is told. -/
theorem tells_respond {α : Type} (now : Instant) {status : Nat} {envelope : α → Envelope}
    (h : ∀ a, (envelope a).Fits status) (result : Except Fault α) :
    (respond now status envelope result).Tells now := by
  cases result with
  | error fault => exact tells_ofFault fault now
  | ok a => exact ⟨_, _, h a, rfl⟩

theorem create_tells : ((create o r).run outage s).1.Tells o.now := by
  unfold create
  split
  · exact tells_ofFault _ _
  · rw [Dialogue.run_map]
    apply tells_respond
    intro w
    exact Envelope.fits_success (.inr rfl) rfl rfl rfl

/-- A page is told, unless there is no arithmetic for it. -/
theorem list_tells (requestId : Option String) :
    ((list o requestId r).run outage s).1.Tells o.now ∨
      ∃ fault, ((list o requestId r).run outage s).1 = .error fault := by
  unfold list
  split
  · exact .inl (tells_ofFault _ _)
  · rename_i q _
    rw [Dialogue.run_map]
    cases ((Service.list q.skip q.limit).run outage s).1 with
    | error fault => exact .inl (tells_ofFault fault _)
    | ok page =>
      simp only
      cases hpage : pageEnvelope requestId page with
      | error fault => exact .inr ⟨fault, rfl⟩
      | ok e =>
        obtain ⟨paging, _, rfl⟩ := ok_of_map hpage
        exact .inl ⟨_, _, Envelope.fits_success (.inl rfl) rfl rfl rfl, rfl⟩

variable (segment : Octets)

/-- A handler that is handed an id tells what comes of it, and so is told that there is none, unless
what stands for it is no text. -/
theorem withId_tells {f : Uuid → Dialogue Outcome}
    (h : ∀ id, ((f id).run outage s).1.Tells o.now) :
    ((withId o segment f).run outage s).1.Tells o.now ∨
      (pathId? segment = none ∧ ((withId o segment f).run outage s).1 = .ok undecodableId) := by
  unfold withId
  split
  · rename_i hid
    exact .inr ⟨hid, rfl⟩
  · exact .inl (tells_ofFault _ _)
  · exact .inl (h _)

theorem get_tells : ((get o segment).run outage s).1.Tells o.now ∨
    (pathId? segment = none ∧ ((get o segment).run outage s).1 = .ok undecodableId) := by
  unfold get
  apply withId_tells
  intro id
  rw [Dialogue.run_map]
  apply tells_respond
  intro w
  exact Envelope.fits_success (.inl rfl) rfl rfl rfl

theorem update_tells : ((update o segment r).run outage s).1.Tells o.now ∨
    (pathId? segment = none ∧ ((update o segment r).run outage s).1 = .ok undecodableId) := by
  unfold update
  split
  · rename_i hid
    exact .inr ⟨hid, rfl⟩
  · split
    · exact .inl (tells_ofFault _ _)
    · apply withId_tells
      intro id
      rw [Dialogue.run_map]
      apply tells_respond
      intro w
      exact Envelope.fits_success (.inl rfl) rfl rfl rfl

theorem delete_tells : ((delete o segment).run outage s).1.Tells o.now ∨
    (pathId? segment = none ∧ ((delete o segment).run outage s).1 = .ok undecodableId) := by
  unfold delete
  apply withId_tells
  intro id
  rw [Dialogue.run_map]
  apply tells_respond
  intro w
  exact Envelope.fits_success (.inl rfl) rfl rfl rfl

theorem tells_routeNotFound (now : Instant) : Outcome.Tells now (.ok (routeNotFound now)) :=
  ⟨_, _, Envelope.fits_failure (by decide) "Route not found" (List.cons_ne_nil _ _), rfl⟩

end Server

/-! ## The law -/

/-- The request is for a handler of workspaces, under a method that its path allows and with a text
where an id should be, or it is for no route at all. HEAD and OPTIONS, whose answers have no body,
are left out. -/
inductive Request.Handled (c : Config) (r : Request) : Prop
  | all (route : Route.ofApiPath? r.target.path = some .collection)
      (method : r.method = "GET" ∨ r.method = "POST")
  | one (segment : Octets) (route : Route.ofApiPath? r.target.path = some (.item segment))
      (text : Octets.IsText (Percent.decode segment))
      (method : r.method = "GET" ∨ r.method = "PATCH" ∨ r.method = "PUT" ∨ r.method = "DELETE")
  | nowhere (route : Route.ofPath? c.docsEnabled r.target.path = none)
      (method : r.method ≠ "OPTIONS" ∧ r.method ≠ "HEAD")

/-- The body of the response is an envelope that agrees with its status. -/
def Response.Agrees (p : Response) : Prop :=
  ("content-type", "application/json") ∈ p.headers ∧
    ∃ (e : Envelope) (now : Instant), p.body = .text (e.toJson now).text ∧
      (e.toJson now).Agrees p.status

theorem Outcome.Tells.agrees {now : Instant} {outcome : Outcome} (h : outcome.Tells now)
    (c : Config) (x : Exchange) :
    ∃ p, outcome.map (Server.dress c x) = .ok p ∧ p.Agrees := by
  obtain ⟨status, e, hfits, rfl⟩ := h
  have htype : ("content-type", "application/json") ∈
      (("content-type", "application/json") :: Cors.headers c x.request).filter
        (·.1 ≠ RequestId.headerName) :=
    List.mem_filter.2 ⟨List.mem_cons_self, by decide⟩
  exact ⟨_, rfl, List.mem_append_left _ htype, e, now, rfl, hfits.agrees now⟩

/-- Whichever calls of the store fail, and with whatever fault, every answer about workspaces is an
envelope that agrees with its status, as is the answer on a path of no route. Only a listing can
have no answer, for want of arithmetic. -/
theorem status_and_envelope_never_disagree (c : Config) (x : Exchange) (s : Store)
    (h : x.request.Handled c) :
    (∃ p, (x.run c s).1 = .ok p ∧ p.Agrees) ∨
      ((∃ fault, (x.run c s).1 = .error fault) ∧ x.request.method = "GET" ∧
        Route.ofApiPath? x.request.target.path = some .collection) := by
  cases h with
  | all route method =>
    rcases method with method | method
    · rw [Server.run_of_get c x s _ method route]
      rcases Server.list_tells x.occasion x.request x.outage s
        (some (RequestId.choose x.request x.occasion.freshRequestId)) with htells | ⟨fault, hfault⟩
      · exact .inl (htells.agrees c x)
      · refine .inr ⟨⟨fault, ?_⟩, method, route⟩
        unfold Server.getRoute
        rw [hfault]
        rfl
    · rw [Server.run_of_creation c x s method route]
      exact .inl ((Server.create_tells x.occasion x.request x.outage s).agrees c x)
  | one segment route text method =>
    -- The one answer that is no envelope is for a segment that is no text.
    have hid : pathId? segment ≠ none := fun hid => (pathId?_eq_none_iff segment).1 hid text
    have hagrees : ∀ {outcome : Outcome}, outcome.Tells x.occasion.now ∨
        (pathId? segment = none ∧ outcome = .ok Server.undecodableId) →
          ∃ p, outcome.map (Server.dress c x) = .ok p ∧ p.Agrees := by
      rintro outcome (htells | ⟨hnone, _⟩)
      · exact htells.agrees c x
      · exact absurd hnone hid
    have hrevises : x.request.method = "PATCH" ∨ x.request.method = "PUT" →
        ∃ p, (x.run c s).1 = .ok p ∧ p.Agrees := by
      intro method
      rw [Server.run_of_revision c x s method route]
      exact hagrees (Server.update_tells x.occasion x.request x.outage s segment)
    refine .inl ?_
    rcases method with method | method | method | method
    · rw [Server.run_of_lookup c x s method route]
      exact hagrees (Server.get_tells x.occasion x.outage s segment)
    · exact hrevises (.inl method)
    · exact hrevises (.inr method)
    · rw [Server.run_of_deletion c x s method route]
      exact hagrees (Server.delete_tells x.occasion x.outage s segment)
  | nowhere route method =>
    rw [Server.run_of_nowhere x s c method.1 route]
    exact .inl ((Server.tells_routeNotFound x.occasion.now).agrees c x)

/-- The creation of a workspace, at a store that takes none in and gives no code for it. -/
def Sample.clash : Exchange :=
  { creation with
    outage := fun
      | .insert => some (.conflict "no room" none none)
      | _ => none }

theorem a_conflict_without_a_code_is_told :
    Sample.clash.request.Handled Sample.config ∧
      ∃ p, (Sample.clash.run Sample.config Store.empty).1 = .ok p ∧ p.status = 409 ∧ p.Agrees := by
  have hhandled : Sample.clash.request.Handled Sample.config :=
    .all (by decide +kernel) (.inr rfl)
  have hstatus : Outcome.status? (Sample.clash.run Sample.config Store.empty).1 = some 409 := by
    decide +kernel
  refine ⟨hhandled, ?_⟩
  rcases status_and_envelope_never_disagree Sample.config Sample.clash Store.empty hhandled with
    ⟨p, hp, hagrees⟩ | ⟨⟨fault, hfault⟩, _⟩
  · rw [hp] at hstatus
    exact ⟨p, hp, Option.some.inj hstatus, hagrees⟩
  · rw [hfault] at hstatus
    cases hstatus

end Http

end Workspaces

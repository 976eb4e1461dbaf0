-- The headers that every answer carries, whatever is asked: what is granted to the origin of the
-- request, and the id of the exchange.
import Workspaces.Proofs.Config.Startup
import Workspaces.Proofs.Http.Answers

namespace Workspaces.Http

namespace Cors

/-- Settings that pass their check come to origins, none of which is lost. -/
theorem Origins.ofConfig?_of_check {c : Config} (h : c.check = .ok ()) :
    ofConfig? c = some (if "*" ∈ c.corsOrigins then .any else .listed c.corsOrigins) := by
  unfold ofConfig? Config.allowsAnyOrigin
  by_cases hany : "*" ∈ c.corsOrigins
  · rw [if_pos hany, if_pos (List.contains_iff_mem.2 hany)]
  · have hkept : c.corsOrigins.filterMap Config.headerText? = c.corsOrigins := by
      have heach : ∀ origin ∈ c.corsOrigins, Config.headerText? origin = some origin := by
        intro origin horigin
        rcases Config.origins_of_check h origin horigin with rfl | htext
        · exact absurd horigin hany
        · exact if_pos htext
      rw [List.filterMap_congr heach, List.filterMap_some]
    have hnone : ¬ c.corsOrigins.contains "*" = true := fun h => hany (List.contains_iff_mem.1 h)
    rw [if_neg hany, if_neg hnone, hkept]
    exact if_neg hnone

/-- The origin of a list that a request is told is its own. -/
theorem Origins.answer?_of_mem {origins : List String} {origin : String} (h : origin ∈ origins) :
    (listed origins).answer? (some (Octets.ofString origin)) = some origin := by
  change origins.find? _ = _
  cases hfind : origins.find? fun listed => Octets.ofString listed = Octets.ofString origin with
  | none =>
    exact absurd (decide_eq_true rfl) (List.find?_eq_none.1 hfind origin h)
  | some found =>
    -- It may be another entry of the list, but octets tell texts apart.
    have heq := List.find?_some hfind
    rw [Octets.ofString_inj (of_decide_eq_true heq)]

theorem Origins.answer?_of_not_mem {origins : List String} {origin? : Option Octets}
    (h : ∀ origin ∈ origins, origin? ≠ some (Octets.ofString origin)) :
    (listed origins).answer? origin? = none := by
  cases origin? with
  | none => rfl
  | some sent =>
    refine List.find?_eq_none.2 fun origin horigin heq => ?_
    exact h origin horigin (congrArg some (of_decide_eq_true heq).symm)

end Cors

/-! ## Values of headers -/

namespace Response

/-- The values of a header, whose name is given in small letters. -/
def values (p : Response) (name : String) : List String :=
  (p.headers.filter (·.1 = name)).map (·.2)

theorem values_setHeader (p : Response) (name value : String) :
    (p.setHeader name value).values name = [value] := by
  simp [values, setHeader, List.filter_append, List.filter_filter]

theorem values_setHeader_of_ne (p : Response) {name other : String} (value : String)
    (h : name ≠ other) : (p.setHeader name value).values other = p.values other := by
  have hkept : (p.headers.filter (·.1 ≠ name)).filter (·.1 = other) =
      p.headers.filter (·.1 = other) := by
    rw [List.filter_filter]
    refine List.filter_congr fun header _ => ?_
    by_cases hother : header.1 = other
    · simp [hother, h.symm]
    · simp [hother]
  unfold values setHeader
  rw [List.filter_append, hkept, List.filter_singleton, decide_eq_false h]
  simp

/-- The response has no headers but those that a route gives. -/
def Plain (p : Response) : Prop := ∀ h ∈ p.headers, h.1 ∈ ["content-type", "location", "allow"]

theorem Plain.withType (status : Nat) (mediaType : String) (body : Body) :
    (withType status mediaType body).Plain := by
  intro h hh
  obtain rfl := List.mem_singleton.1 hh
  exact List.mem_cons_self

theorem Plain.values {p : Response} (h : p.Plain) {name : String}
    (hname : name ∉ ["content-type", "location", "allow"]) : p.values name = [] := by
  have hnone : p.headers.filter (·.1 = name) = [] := by
    refine List.filter_eq_nil_iff.2 fun header hheader heq => ?_
    exact hname (of_decide_eq_true heq ▸ h header hheader)
  unfold Response.values
  rw [hnone]
  rfl

end Response

/-- The answer, if there is one, has no headers but those that a route gives. -/
def Outcome.Plain (outcome : Outcome) : Prop := ∀ p, outcome = .ok p → p.Plain

theorem Outcome.Plain.ok {p : Response} (h : p.Plain) : Plain (.ok p) := by
  intro q hq
  obtain rfl := Except.ok.inj hq
  exact h

theorem Outcome.Tells.plain {now : Instant} {outcome : Outcome} (h : outcome.Tells now) :
    outcome.Plain := by
  obtain ⟨status, e, _, rfl⟩ := h
  exact .ok (.withType _ _ _)

theorem Response.Plain.bare (status : Nat) : (bare status).Plain := by
  intro h hh
  cases hh

namespace Server

variable (o : Occasion) (r : Request) (outage : Outage) (s : Store)

/-- What a handler of ids answers is told, or is that there is no text. -/
theorem plain_of_tells {outcome : Outcome} {now : Instant} {segment : Octets}
    (h : outcome.Tells now ∨ (pathId? segment = none ∧ outcome = .ok undecodableId)) :
    outcome.Plain := by
  rcases h with htells | ⟨_, rfl⟩
  · exact htells.plain
  · exact .ok (.withType _ _ _)

theorem plain_methodNotAllowed (route : Route) : Outcome.Plain (.ok (methodNotAllowed route)) := by
  refine .ok fun h hh => ?_
  obtain rfl := List.mem_singleton.1 hh
  simp

theorem getRoute_plain (requestId : Option String) (route : Route) :
    ((getRoute o requestId r route).run outage s).1.Plain := by
  cases route with
  | health =>
    change ((health).run outage s).1.Plain
    unfold health
    rw [Dialogue.run_call]
    exact .ok (.withType _ _ _)
  | collection =>
    rcases list_tells o r outage s requestId with htells | ⟨fault, hfault⟩
    · exact htells.plain
    · intro p hp
      cases hfault.symm.trans hp
  | item segment => exact plain_of_tells (get_tells o outage s segment)
  | document => exact .ok (.withType _ _ _)
  | docs =>
    refine .ok fun h hh => ?_
    obtain rfl := List.mem_singleton.1 hh
    simp
  | docsPage name =>
    refine .ok ?_
    unfold Docs.page
    split
    · exact .withType _ _ _
    · exact .bare 404
  | reference => exact .ok (.withType _ _ _)

theorem handle_plain (requestId : Option String) (route : Route) :
    ((handle o requestId r route).run outage s).1.Plain := by
  unfold handle
  split
  · exact getRoute_plain o r outage s requestId _
  · rw [Dialogue.run_map]
    intro p hp
    obtain ⟨q, hq, rfl⟩ := ok_of_map hp
    exact getRoute_plain o r outage s requestId _ q hq
  · exact (create_tells o r outage s).plain
  · exact plain_of_tells (update_tells o r outage s _)
  · exact plain_of_tells (update_tells o r outage s _)
  · exact plain_of_tells (delete_tells o outage s _)
  · exact plain_methodNotAllowed _

end Server

/-! ## What every answer carries -/

/-- Among the headers of the layer only the grant has its name. -/
theorem Cors.filter_grantName (c : Config) (r : Request) {others : List (String × String)}
    (h : ∀ header ∈ others, header.1 ≠ grantName) :
    (vary ++ (grant c r ++ others)).filter (·.1 = grantName) = grant c r := by
  have hvary : vary.filter (·.1 = grantName) = [] := by decide
  have hgrant : (grant c r).filter (·.1 = grantName) = grant c r := by
    refine List.filter_eq_self.2 fun header hheader => ?_
    obtain ⟨origin, _, rfl⟩ := Option.map_eq_some_iff.1 (Option.mem_toList.1 hheader)
    exact decide_eq_true rfl
  have hothers : others.filter (·.1 = grantName) = [] := by
    refine List.filter_eq_nil_iff.2 fun header hheader heq => ?_
    exact h header hheader (of_decide_eq_true heq)
  rw [List.filter_append, List.filter_append, hvary, hgrant, hothers, List.nil_append,
    List.append_nil]

theorem Response.Plain.values_granted {p : Response} (h : p.Plain) (c : Config) (r : Request) :
    (p.withHeaders (Cors.headers c r)).values Cors.grantName =
      (Cors.grant c r).map (·.2) := by
  have hnone := h.values (show Cors.grantName ∉ _ by decide)
  unfold Response.values at hnone ⊢
  unfold withHeaders Cors.headers
  rw [List.append_assoc, List.filter_append, List.map_append, hnone,
    Cors.filter_grantName c r (by decide)]
  rfl

theorem Cors.values_preflight (c : Config) (r : Request) (allow : Option String) :
    (preflight c r allow).values grantName = (grant c r).map (·.2) := by
  unfold Response.values preflight
  rw [List.append_assoc, List.append_assoc, filter_grantName]
  intro header hheader
  simp only [List.mem_append, List.mem_cons, List.not_mem_nil, or_false,
    Option.mem_toList] at hheader
  rcases hheader with (rfl | rfl) | hallow
  · decide
  · decide
  · obtain ⟨methods, _, rfl⟩ := Option.map_eq_some_iff.1 hallow
    change "allow" ≠ grantName
    decide

/-- Every answer carries one id, put on an answer with what is granted to the request. -/
theorem exists_granted (c : Config) (x : Exchange) (s : Store) {p : Response}
    (h : (x.run c s).1 = .ok p) :
    ∃ q, p = Server.withRequestId (RequestId.choose x.request x.occasion.freshRequestId) q ∧
      q.values Cors.grantName = (Cors.grant c x.request).map (·.2) := by
  -- The layer of grants answers preflights itself and covers whatever lies behind it.
  by_cases hmethod : x.request.method = "OPTIONS"
  · rw [Server.run_of_preflight x s c hmethod] at h
    exact ⟨_, (Except.ok.inj h).symm, Cors.values_preflight c x.request _⟩
  · cases hroute : Route.ofPath? c.docsEnabled x.request.target.path with
    | none =>
      rw [Server.run_of_nowhere x s c hmethod hroute] at h
      obtain rfl := Except.ok.inj h
      refine ⟨_, rfl, Response.Plain.values_granted ?_ c x.request⟩
      exact (Server.tells_routeNotFound x.occasion.now).plain _ rfl
    | some route =>
      rw [Server.run_of_path x s c hmethod hroute] at h
      obtain ⟨q, hq, rfl⟩ := ok_of_map h
      refine ⟨_, rfl, Response.Plain.values_granted ?_ c x.request⟩
      exact Server.handle_plain _ _ _ s _ route q hq

/-- What an answer grants is what the origins of the settings come to for the request. -/
theorem values_of_run (c : Config) (x : Exchange) (s : Store) {p : Response}
    (h : (x.run c s).1 = .ok p) :
    p.values "access-control-allow-origin" =
      ((Cors.Origins.ofConfig? c).bind (·.answer? (x.request.header? "origin"))).toList := by
  obtain ⟨q, rfl, hgranted⟩ := exists_granted c x s h
  have hid : RequestId.headerName ≠ Cors.grantName := by decide
  calc (Server.withRequestId _ q).values Cors.grantName
      = q.values Cors.grantName := q.values_setHeader_of_ne _ hid
    _ = (Cors.grant c x.request).map (·.2) := hgranted
    _ = _ := by
      unfold Cors.grant
      cases (Cors.Origins.ofConfig? c).bind (·.answer? (x.request.header? "origin")) <;> rfl

/-! ## The origin of a request -/

/-- Settings that pass their check come to a layer of grants, in which none of their origins is
lost, and which has a list only where the wildcard is none of them. Every answer then grants what
they say and nothing else: the wildcard if it is among them, or else the origin that the request
gives first, if that is among them octet by octet. -/
theorem exactly_the_configured_origins_are_granted (pairs : List (String × String)) (c : Config)
    (h : Config.ofPairs pairs = .ok c) :
    c.corsOrigins = Config.toldOrigins pairs ∧
    Cors.Origins.ofConfig? c =
      some (if "*" ∈ c.corsOrigins then .any else .listed c.corsOrigins) ∧
    ∀ (x : Exchange) (s : Store) (p : Response), (x.run c s).1 = .ok p →
      ("*" ∈ c.corsOrigins → p.values "access-control-allow-origin" = ["*"]) ∧
      ("*" ∉ c.corsOrigins →
        (∀ origin ∈ c.corsOrigins, x.request.header? "origin" = some (Octets.ofString origin) →
          p.values "access-control-allow-origin" = [origin]) ∧
        ((∀ origin ∈ c.corsOrigins, x.request.header? "origin" ≠ some (Octets.ofString origin)) →
          p.values "access-control-allow-origin" = [])) := by
  obtain ⟨hread, hcheck⟩ := Config.ok_of_ofPairs h
  have horigins := Cors.Origins.ofConfig?_of_check hcheck
  refine ⟨Config.corsOrigins_of_takePairs hread, horigins, ?_⟩
  intro x s p hp
  have hvalues := values_of_run c x s hp
  rw [horigins, Option.bind_some] at hvalues
  refine ⟨fun hany => ?_, fun hnone => ?_⟩
  · rw [hvalues, if_pos hany]
    rfl
  · rw [if_neg hnone] at hvalues
    refine ⟨fun origin horigin hsent => ?_, fun hother => ?_⟩
    · rw [hvalues, hsent, Cors.Origins.answer?_of_mem horigin]
      rfl
    · rw [hvalues, Cors.Origins.answer?_of_not_mem hother]
      rfl

/-- An empty origin between two others. -/
def Sample.origins : List (String × String) :=
  [("CORS_ORIGINS", "http://a.test,,http://b.test")]

def Sample.originsConfig : Config :=
  { Config.default with corsOrigins := ["http://a.test", "", "http://b.test"] }

/-- A preflight on a path of no route. -/
def Sample.preflight (origin : String) : Exchange :=
  { creation with
    request :=
      { method := "OPTIONS"
        target := .ofOctets (Octets.ofString "/nowhere")
        headers := [("Origin", Octets.ofString origin), ("Origin", Octets.ofString "http://a.test")]
        body := [] } }

theorem the_first_origin_that_is_given_counts :
    Config.ofPairs Sample.origins = .ok Sample.originsConfig ∧
    (∃ p, ((Sample.preflight "http://b.test").run Sample.originsConfig Store.empty).1 = .ok p ∧
      p.values "access-control-allow-origin" = ["http://b.test"]) ∧
    ∃ p, ((Sample.preflight "http://b.test/").run Sample.originsConfig Store.empty).1 = .ok p ∧
      p.values "access-control-allow-origin" = [] := by
  have hconfig : Config.ofPairs Sample.origins = .ok Sample.originsConfig := by decide +kernel
  have hnone : "*" ∉ Sample.originsConfig.corsOrigins := by decide
  obtain ⟨_, _, hanswers⟩ := exactly_the_configured_origins_are_granted _ _ hconfig
  have hanswer : ∀ origin, ∃ p,
      ((Sample.preflight origin).run Sample.originsConfig Store.empty).1 = .ok p :=
    fun origin => ⟨_, rfl⟩
  obtain ⟨p, hp⟩ := hanswer "http://b.test"
  obtain ⟨q, hq⟩ := hanswer "http://b.test/"
  refine ⟨hconfig, ⟨p, hp, ?_⟩, q, hq, ?_⟩
  · exact ((hanswers _ _ p hp).2 hnone).1 _ (by decide) (by decide +kernel)
  · exact ((hanswers _ _ q hq).2 hnone).2 (by decide +kernel)

/-! ## The id of an exchange -/

namespace Server

/-- The id that a listing is given stands in the metadata of its page. -/
theorem pageEnvelope_requestId {requestId : Option String} {page : Page} {e : Envelope}
    (h : pageEnvelope requestId page = .ok e) :
    ∃ m, e.metadata = some m ∧ m.requestId = requestId := by
  obtain ⟨paging, _, rfl⟩ := ok_of_map h
  exact ⟨_, rfl, rfl⟩

/-- A listing that is answered tells its id. -/
theorem list_tells_id (o : Occasion) (r : Request) (outage : Outage) (s : Store) (id : String)
    {p : Response} (h : ((list o (some id) r).run outage s).1 = .ok p) (hstatus : p.status = 200) :
    ∃ e, p = .ofEnvelope 200 e o.now ∧
      (e.toJson o.now).follow? ["meta", "request_id"] = some (.string id) := by
  have hrefused : ∀ fault : Fault, (.ok (.ofFault fault o.now) : Outcome) ≠ .ok p := by
    intro fault heq
    obtain rfl := Except.ok.inj heq
    have hge := fault_status_ge fault
    have heq : fault.status = 200 := hstatus
    omega
  unfold list at h
  split at h
  · exact absurd h (hrefused _)
  · rename_i q _
    rw [Dialogue.run_map] at h
    simp only at h
    split at h
    · exact absurd h (hrefused _)
    · obtain ⟨e, he, rfl⟩ := ok_of_map h
      obtain ⟨m, hmeta, hid⟩ := pageEnvelope_requestId he
      refine ⟨e, rfl, ?_⟩
      rw [Envelope.follow?_requestId _ _ hmeta, hid]
      rfl

end Server

/-- The same exchange by another method. -/
def Exchange.by (x : Exchange) (method : String) : Exchange :=
  { x with request := { x.request with method } }

/-- HEAD on a route is answered as GET is, without the body. -/
theorem Server.run_of_head (c : Config) (x : Exchange) (s : Store) (route : Route)
    (hmethod : x.request.method = "HEAD")
    (hroute : Route.ofApiPath? x.request.target.path = some route) :
    (x.run c s).1 = ((x.by "GET").run c s).1.map (·.withoutBody) := by
  rw [run_of_route x s c (by simp [hmethod]) hroute, run_of_get c (x.by "GET") s _ rfl hroute]
  simp only [handle, hmethod]
  rw [Dialogue.run_map, except_map_map, except_map_map]
  rfl

/-- Whatever is asked, an answer carries one id. It is the first that the request gives, octet by
octet, exactly if that one can be taken over, and a fresh one if it cannot or there is none. A page
of workspaces tells the same id in its metadata; under HEAD it is the page without its body. -/
theorem every_answer_carries_the_id_of_its_exchange (c : Config) (x : Exchange) (s : Store)
    (p : Response) (h : (x.run c s).1 = .ok p) :
    ∃ id, p.values "x-request-id" = [id] ∧
      (∀ sent, x.request.header? "x-request-id" = some sent →
        (Octets.ofString id = sent ↔ RequestId.Acceptable sent)) ∧
      ((∀ sent, x.request.header? "x-request-id" = some sent → ¬ RequestId.Acceptable sent) →
        id = x.occasion.freshRequestId.text) ∧
      (Route.ofApiPath? x.request.target.path = some .collection → p.status = 200 →
        (x.request.method = "GET" → ∃ (e : Envelope) (now : Instant),
          p.body = .text (e.toJson now).text ∧
          (e.toJson now).follow? ["meta", "request_id"] = some (.string id)) ∧
        (x.request.method = "HEAD" →
          ∃ q, ((x.by "GET").run c s).1 = .ok q ∧ p = q.withoutBody)) := by
  refine ⟨RequestId.choose x.request x.occasion.freshRequestId, ?_, ?_, ?_, ?_⟩
  · obtain ⟨q, rfl, _⟩ := exists_granted c x s h
    exact Response.values_setHeader q _ _
  · intro sent hsent
    constructor
    · intro heq
      rw [← heq]
      exact RequestId.acceptable_choose x.request _
    · exact RequestId.choose_of_acceptable x.request _ hsent
  · exact RequestId.choose_of_unacceptable x.request _
  · intro hroute hstatus
    refine ⟨fun hmethod => ?_, fun hmethod => ?_⟩
    · rw [Server.run_of_get c x s _ hmethod hroute] at h
      obtain ⟨q, hq, rfl⟩ := ok_of_map h
      obtain ⟨e, rfl, hid⟩ := Server.list_tells_id _ _ _ _ _ hq hstatus
      exact ⟨e, _, rfl, hid⟩
    · rw [Server.run_of_head c x s _ hmethod hroute] at h
      obtain ⟨q, hq, heq⟩ := ok_of_map h
      exact ⟨q, hq, heq.symm⟩

/-- A listing, with texts that are sent for its id. -/
def Sample.labelled (ids : List String) : Exchange :=
  { creation with
    request :=
      { method := "GET"
        target := .ofOctets (Octets.ofString "/api/v1/workspaces")
        headers := ids.map fun id => ("X-Request-Id", Octets.ofString id)
        body := [] } }

theorem the_first_id_is_taken_over_or_none_is :
    (∃ p, ((Sample.labelled ["a b", "c"]).run Sample.config Store.empty).1 = .ok p ∧
      p.values "x-request-id" = ["a b"]) ∧
    ∃ p, ((Sample.labelled ["\u00e9", "c"]).run Sample.config Store.empty).1 = .ok p ∧
      p.values "x-request-id" = ["00000000-0000-0000-0000-000000000000"] := by
  have hanswer : ∀ ids ∈ [["a b", "c"], ["\u00e9", "c"]], Outcome.status?
      ((Sample.labelled ids).run Sample.config Store.empty).1 = some 200 := by
    decide +kernel
  obtain ⟨p, hp, _⟩ := Outcome.ok_of_status? (hanswer _ List.mem_cons_self)
  obtain ⟨q, hq, _⟩ := Outcome.ok_of_status? (hanswer _ (.tail _ List.mem_cons_self))
  refine ⟨⟨p, hp, ?_⟩, q, hq, ?_⟩
  · obtain ⟨id, hid, hsent, _⟩ := every_answer_carries_the_id_of_its_exchange _ _ _ p hp
    have htaken := (hsent (Octets.ofString "a b") rfl).2 (by decide +kernel)
    rw [hid, Octets.ofString_inj htaken]
  · obtain ⟨id, hid, _, hfresh, _⟩ := every_answer_carries_the_id_of_its_exchange _ _ _ q hq
    have hrefused : ¬ RequestId.Acceptable (Octets.ofString "\u00e9") := by decide +kernel
    have hnew := hfresh fun sent hsent => by
      obtain rfl := Option.some.inj hsent
      exact hrefused
    rw [hid, hnew]
    decide +kernel

end Workspaces.Http

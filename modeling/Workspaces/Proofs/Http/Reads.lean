-- What is answered to GET when every call of the store is carried out: on the path of a workspace
-- the workspace, and on the path of them all a page, unless the end of the page is out of reach.
import Workspaces.Proofs.Http.Exchange
import Workspaces.Proofs.Listing.Arithmetic

namespace Workspaces

/-- The envelope of a fault tells the status of its answer. -/
theorem Envelope.ofFault_code (fault : Fault) : (ofFault fault).code = fault.status := by
  unfold ofFault
  split <;> rfl

namespace Http

/-! ## Answers to GET -/

namespace Server

variable (c : Config) (x : Exchange) (s : Store)

theorem run_of_get (route : Route) (hmethod : x.request.method = "GET")
    (hroute : Route.ofApiPath? x.request.target.path = some route) :
    (x.run c s).1 = ((getRoute x.occasion (some (RequestId.choose x.request
      x.occasion.freshRequestId)) x.request route).run x.outage s).1.map (dress c x) := by
  rw [run_of_route x s c (by simp [hmethod]) hroute]
  simp only [handle, hmethod]

/-- The answer to GET on the path of a workspace. -/
theorem get_answer (id : Uuid) (hmethod : x.request.method = "GET")
    (haddresses : x.request.Addresses id) :
    (x.run c s).1 = ((respond x.occasion.now 200
      (fun w => .withData w.toJson "Workspace retrieved successfully"))
        ((Service.get id).run x.outage s).1).map (dress c x) := by
  obtain ⟨segment, hroute, hid⟩ := haddresses
  rw [run_of_get c x s _ hmethod hroute]
  change Except.map _ ((get x.occasion segment).run x.outage s).1 = _
  unfold get withId
  simp only [hid]
  rw [Dialogue.run_map]

end Server

/-- To look up a workspace that is there tells it, and to look up one that is not is refused. -/
theorem lookup_answer (c : Config) (x : Exchange) (s : Store) (id : Uuid)
    (hcalm : x.outage = Outage.none) (hmethod : x.request.method = "GET")
    (haddresses : x.request.Addresses id) :
    ∃ p, (x.run c s).1 = .ok p ∧
      ((∃ w, s.find? id = some w ∧ p.status = 200 ∧ p.Conveys w.toJson) ∨
        (s.find? id = none ∧ p.status = 404)) := by
  rw [Server.get_answer c x s id hmethod haddresses, hcalm, Service.run_get]
  cases hfind : s.find? id with
  | none => exact ⟨_, rfl, .inr ⟨rfl, rfl⟩⟩
  | some w => exact ⟨_, rfl, .inl ⟨w, rfl, rfl, _, _, rfl, rfl⟩⟩

/-- A workspace that is not there is not shown, whichever calls of the store fail. -/
theorem lookup_fails (c : Config) (x : Exchange) (s : Store) (id : Uuid)
    (hmethod : x.request.method = "GET") (haddresses : x.request.Addresses id)
    (habsent : s.find? id = none) : ¬ Outcome.Succeeds (x.run c s).1 := by
  rw [Server.get_answer c x s id hmethod haddresses]
  rcases Service.get_result x.outage s id with ⟨fault, hrun⟩ | ⟨w, hfind, _⟩
  · rw [hrun]
    rintro ⟨n, hn, hrange⟩
    exact not_succeeds_ofFault fault x.occasion.now ⟨n, hn, hrange⟩
  · rw [habsent] at hfind
    cases hfind

/-! ## Listing -/

/-- The window that a listing asks for, if it is not refused. -/
def Request.Asks (r : Request) (w : Window) : Prop :=
  ∃ q, WindowQuery.ofOctets r.target.query = .ok q ∧ Window.ofRequest q.skip q.limit = .ok w

theorem Request.Asks.bounds {r : Request} {w : Window} (h : r.Asks w) :
    0 ≤ w.skip ∧ w.skip < 2 ^ 63 ∧ 1 ≤ w.limit ∧ w.limit ≤ 100 := by
  obtain ⟨q, hquery, hwindow⟩ := h
  obtain ⟨hskip, hpos, hlimit, hmax⟩ := Window.bounds hwindow
  refine ⟨hpos, ?_, hlimit, hmax⟩
  have hfits := (WindowQuery.fits_of_ofOctets _ q hquery).1
  rw [hskip]
  cases hgiven : q.skip with
  | none => decide
  | some n => exact hfits n hgiven

/-- A query asks for one window. -/
theorem Request.Asks.unique {r : Request} {v w : Window} (hv : r.Asks v) (hw : r.Asks w) :
    v = w := by
  obtain ⟨q, hq, hv⟩ := hv
  obtain ⟨q', hq', hw⟩ := hw
  rw [hq] at hq'
  obtain rfl := Except.ok.inj hq'
  rw [hv] at hw
  exact Except.ok.inj hw

namespace Server

variable (c : Config) (x : Exchange) (s : Store)

/-- A listing is refused for its query, or a page is shown as far as there is arithmetic for it. -/
theorem list_answer (hcalm : x.outage = Outage.none) (hmethod : x.request.method = "GET")
    (hroute : Route.ofApiPath? x.request.target.path = some .collection) :
    (∃ fault : Fault, fault.status = 400 ∧ (∀ w, ¬ x.request.Asks w) ∧
      (x.run c s).1 = .ok (dress c x (.ofFault fault x.occasion.now))) ∨
    ∃ w requestId, x.request.Asks w ∧
      (x.run c s).1 = (pageEnvelope requestId ⟨s.list w.skip w.limit, w, s.count⟩).map
        fun e => dress c x (.ofEnvelope 200 e x.occasion.now) := by
  rw [run_of_get c x s _ hmethod hroute, hcalm]
  unfold getRoute list
  cases hquery : WindowQuery.ofOctets x.request.target.query with
  | error fault =>
    refine .inl ⟨fault.fault, rfl, ?_, rfl⟩
    rintro w ⟨q, hq, _⟩
    rw [hquery] at hq
    cases hq
  | ok q =>
    simp only
    rw [Dialogue.run_map]
    cases hwindow : Window.ofRequest q.skip q.limit with
    | error fault =>
      refine .inl ⟨fault, Window.refusal_status hwindow, ?_, ?_⟩
      · rintro w ⟨q', hq, hw⟩
        rw [hquery] at hq
        obtain rfl := Except.ok.inj hq
        rw [hwindow] at hw
        cases hw
      · unfold Service.list
        rw [hwindow]
        rfl
    | ok w =>
      refine .inr ⟨w, some (RequestId.choose x.request x.occasion.freshRequestId),
        ⟨q, hquery, hwindow⟩, ?_⟩
      rw [Service.run_list s q.skip q.limit w hwindow]
      change Except.map _ (Except.map _ (pageEnvelope _ _)) = _
      cases pageEnvelope _ _ <;> rfl

/-- The number of all workspaces stands beside a page. -/
theorem pageEnvelope_total {requestId : Option String} {page : Page} {e : Envelope}
    (h : pageEnvelope requestId page = .ok e) :
    e.code = 200 ∧ ∃ m, e.metadata = some m ∧ m.total = some page.total := by
  obtain ⟨paging, _, rfl⟩ := ok_of_map h
  exact ⟨rfl, _, rfl, rfl⟩

theorem pageEnvelope_eq (requestId : Option String) (items : List Workspace) (w : Window)
    (total : Int) (hskip : 0 ≤ w.skip) (hmax : w.skip < 2 ^ 63) (hlimit : 1 ≤ w.limit)
    (htotal : 0 ≤ total) (h : total + w.limit < 2 ^ 63) :
    (w.skip + w.limit < 2 ^ 63 ∧ ∃ e, pageEnvelope requestId ⟨items, w, total⟩ = .ok e) ∨
      (2 ^ 63 ≤ w.skip + w.limit ∧
        pageEnvelope requestId ⟨items, w, total⟩ = .error .addOverflow) := by
  unfold pageEnvelope
  rw [Paging.ofWindow_eq w.skip w.limit total hskip hmax hlimit htotal (.inl h)]
  by_cases hstop : w.skip + w.limit < 2 ^ 63
  · rw [if_pos hstop]
    exact .inl ⟨hstop, _, rfl⟩
  · rw [if_neg hstop]
    exact .inr ⟨by omega, rfl⟩

end Server

/-- The window that a listing asks for ends beyond the integers of 64 bits. -/
def Request.Overruns (r : Request) : Prop := ∃ w, r.Asks w ∧ 2 ^ 63 ≤ w.skip + w.limit

/-- With every call of the store carried out and a number of workspaces that can be counted, a
listing is answered with an envelope, which tells of a page or of what is wrong with the query,
unless its window ends beyond the integers of 64 bits. That is then the only operation of all the
arithmetic that has no result, and there is no answer. -/
theorem a_listing_is_answered_unless_its_window_overruns (c : Config) (x : Exchange) (s : Store)
    (hcalm : x.outage = Outage.none) (hmethod : x.request.method = "GET")
    (hroute : Route.ofApiPath? x.request.target.path = some .collection)
    (hcount : s.count < 2 ^ 62) :
    ((x.run c s).1 = .error .addOverflow ↔ x.request.Overruns) ∧
    (¬ x.request.Overruns → ∃ p e now, (x.run c s).1 = .ok p ∧ (p.status = 200 ∨ p.status = 400) ∧
      p.body = .text (Envelope.toJson e now).text ∧ e.code = p.status) := by
  rcases Server.list_answer c x s hcalm hmethod hroute with
    ⟨fault, hstatus, hnone, hrun⟩ | ⟨w, requestId, hasks, hrun⟩
  · rw [hrun]
    refine ⟨⟨fun h => (by cases h), fun ⟨w, hasks, _⟩ => absurd hasks (hnone w)⟩, fun _ => ?_⟩
    refine ⟨_, .ofFault fault, x.occasion.now, rfl, .inr hstatus, rfl, ?_⟩
    exact Envelope.ofFault_code fault
  · obtain ⟨hskip, hmax, hlimit, hlimit'⟩ := hasks.bounds
    have hwindow : ∀ v, x.request.Asks v → v = w := fun v hv => hv.unique hasks
    rw [hrun]
    rcases Server.pageEnvelope_eq requestId (s.list w.skip w.limit) w s.count hskip hmax hlimit
      (by omega) (by omega) with ⟨hstop, e, he⟩ | ⟨hstop, he⟩
    · have hfits : ¬ x.request.Overruns := by
        rintro ⟨v, hv, hover⟩
        rw [hwindow v hv] at hover
        omega
      rw [he]
      refine ⟨⟨fun h => (by cases h), fun h => absurd h hfits⟩, fun _ => ?_⟩
      exact ⟨_, e, x.occasion.now, rfl, .inl rfl, rfl, (Server.pageEnvelope_total he).1⟩
    · have hover : x.request.Overruns := ⟨w, hasks, hstop⟩
      rw [he]
      exact ⟨⟨fun _ => hover, fun _ => rfl⟩, fun h => absurd hover h⟩

/-- To skip as many workspaces as can be counted leaves no end for the page. -/
theorem the_farthest_page_is_not_answered :
    ((Sample.exchange 1 .nil "GET" "/api/v1/workspaces?skip=9223372036854775807" "").run
      Sample.config Store.empty).1 = .error .addOverflow := by
  decide +kernel

theorem the_first_page_is_answered :
    ∃ p e now,
      ((Sample.exchange 1 .nil "GET" "/api/v1/workspaces?limit=5" "").run
        Sample.config Store.empty).1 = .ok p ∧ (p.status = 200 ∨ p.status = 400) ∧
        p.body = .text (Envelope.toJson e now).text ∧ e.code = p.status := by
  obtain ⟨hfault, hanswer⟩ := a_listing_is_answered_unless_its_window_overruns Sample.config
    (Sample.exchange 1 .nil "GET" "/api/v1/workspaces?limit=5" "") Store.empty rfl rfl
    (by decide +kernel) (by decide)
  refine hanswer fun hover => ?_
  have hnone := hfault.2 hover
  exact absurd hnone (by decide +kernel)

end Http

end Workspaces

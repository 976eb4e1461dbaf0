-- Bodies that are no document of JSON: they are refused and nothing is changed, unless what is
-- wrong with them stands where nobody looks.
import Workspaces.Proofs.Http.PartialUpdate
import Workspaces.Proofs.Json.Fronts

namespace Workspaces

namespace Http

/-! ## Failures -/

/-- The response is the envelope of a failure with these details, under this status. -/
def Response.Fails (p : Response) (status : Nat) (details : List Detail) : Prop :=
  p.status = status ∧ ("content-type", "application/json") ∈ p.headers ∧
    ∃ message now, p.body = .text ((Envelope.failure status message details).toJson now).text

/-- The one detail of a body or a query that is refused. -/
def badRequest (message : String) : Detail := ⟨none, "BAD_REQUEST", message⟩

namespace Response

variable {p : Response} {status : Nat} {details : List Detail}

theorem Fails.dress (h : p.Fails status details) (c : Config) (x : Exchange) :
    (Server.dress c x p).Fails status details := by
  obtain ⟨hstatus, htype, hbody⟩ := h
  have hkept : ("content-type", "application/json") ∈
      (p.headers ++ Cors.headers c x.request).filter (·.1 ≠ RequestId.headerName) :=
    List.mem_filter.2 ⟨List.mem_append_left _ htype, by decide⟩
  exact ⟨hstatus, List.mem_append_left _ hkept, hbody⟩

theorem fails_of_envelope (status : Nat) (message : String) (details : List Detail)
    (now : Instant) :
    (ofEnvelope status (.failure status message details) now).Fails status details :=
  ⟨rfl, List.mem_singleton.2 rfl, message, now, rfl⟩

theorem fails_invalid (message : String) (now : Instant) :
    (ofFault (.invalid message) now).Fails 400 [badRequest message] :=
  fails_of_envelope 400 message _ now

theorem fails_bodyFault (fault : BodyFault) (now : Instant) :
    ∃ message, (ofFault fault.fault now).Fails 400 [badRequest message] := by
  cases fault <;> exact ⟨_, fails_invalid _ now⟩

end Response

/-! ## Bodies -/

namespace Request

/-- The request sends JSON to have a workspace created or revised. -/
structure Submits (r : Request) : Prop where
  type : r.announcesJson = true
  asks : (r.method = "POST" ∧ Route.ofApiPath? r.target.path = some .collection) ∨
    ((r.method = "PATCH" ∨ r.method = "PUT") ∧
      ∃ segment, Route.ofApiPath? r.target.path = some (.item segment))

/-- The path is that of a workspace, but where its id should be stands no text. -/
def NamesNoText (r : Request) : Prop :=
  ∃ segment, Route.ofApiPath? r.target.path = some (.item segment) ∧
    ¬ Octets.IsText (Percent.decode segment)

def withBody (r : Request) (body : Octets) : Request := { r with body }

/-- A body is refused, or what is read from it is read from a front of it. -/
theorem json_cases {α : Type} {shape : Json.Shape α} (hf : ∀ f ∈ shape.fields, f.decoder.Exact)
    (r : Request) :
    (∃ fault, r.json shape.take = .error fault) ∨
      ∃ front rest, r.body = front ++ rest ∧ Json.IsFront shape.names front ∧
        (r.withBody front).json shape.take = r.json shape.take := by
  cases hjson : r.json shape.take with
  | error fault => exact .inl ⟨fault, rfl⟩
  | ok x =>
    unfold json at hjson
    split at hjson
    · cases hjson
    · rename_i htype
      split at hjson
      · cases hjson
      · rename_i hlength
        cases htake : shape.take r.body with
        | error stop =>
          rw [htake] at hjson
          simp only at hjson
          split at hjson <;> cases hjson
        | ok y =>
          obtain ⟨y, rest⟩ := y
          rw [htake] at hjson
          obtain rfl := Except.ok.inj hjson
          obtain ⟨front, hbody, hfront, hagain⟩ := Json.Shape.front_of_take hf htake
          refine .inr ⟨front, rest, hbody, hfront, ?_⟩
          have htype' : ¬ (!(r.withBody front).announcesJson) = true := htype
          have hlength' : ¬ maxBodyLength < (r.withBody front).body.length := by
            rw [hbody, List.length_append] at hlength
            change ¬ maxBodyLength < front.length
            omega
          unfold json
          rw [if_neg htype', if_neg hlength']
          simp only [withBody, hagain]

end Request

theorem pathId?_eq_none_iff (segment : Octets) :
    pathId? segment = none ↔ ¬ Octets.IsText (Percent.decode segment) := by
  unfold pathId?
  rw [Octets.isText_iff, Option.map_eq_none_iff, ← Option.isNone_iff_eq_none]
  simp

/-- What comes of a request to create a workspace. -/
theorem Server.run_of_creation (c : Config) (x : Exchange) (s : Store)
    (hmethod : x.request.method = "POST")
    (hroute : Route.ofApiPath? x.request.target.path = some .collection) :
    x.run c s = (((create x.occasion x.request).run x.outage s).1.map (dress c x),
      ((create x.occasion x.request).run x.outage s).2) := by
  rw [run_of_route x s c (by simp [hmethod]) hroute]
  simp only [handle, hmethod]

/-! ## The law -/

def Exchange.withBody (x : Exchange) (body : Octets) : Exchange :=
  { x with request := x.request.withBody body }

/-- A body that is not one value of UTF-8 with blanks around it is refused with one error and
changes nothing, whichever calls of the store fail. Else it has a front, of a readable list or
object, that counts in its place: what is wrong is that more than blanks follow the front, or that
a member of it for which there is no field is not UTF-8. (Under an id that is no text, the refusal
is of the id.) -/
theorem a_malformed_body_is_refused_unless_its_front_is_read (c : Config) (x : Exchange) (s : Store)
    (hsubmits : x.request.Submits) (hbody : ¬ Json.IsDocument x.request.body) :
    (∃ p message, x.run c s = (.ok p, s) ∧ p.Fails 400 [badRequest message]) ∨
    (∃ front rest, x.request.body = front ++ rest ∧ Json.IsFront fieldNames front ∧
      (¬ Json.IsBlanks rest ∨ ¬ Octets.IsText front) ∧ x.run c s = (x.withBody front).run c s) ∨
    (x.request.NamesNoText ∧ ∃ p, x.run c s = (.ok p, s) ∧ p.status = 400) := by
  have hwrong : ∀ {front rest}, x.request.body = front ++ rest → Json.IsFront fieldNames front →
      ¬ Json.IsBlanks rest ∨ ¬ Octets.IsText front := by
    intro front rest hsplit hfront
    by_contra hright
    obtain ⟨hblanks, htext⟩ := not_or.1 hright
    rw [hsplit] at hbody
    exact hbody (hfront.isDocument (not_not.1 htext) (not_not.1 hblanks))
  have hrefused : ∀ fault : BodyFault, ∃ p message,
      ((.ok (Server.dress c x (.ofFault fault.fault x.occasion.now)), s) : Outcome × Store) =
        (.ok p, s) ∧ p.Fails 400 [badRequest message] := by
    intro fault
    obtain ⟨message, hfails⟩ := Response.fails_bodyFault fault x.occasion.now
    exact ⟨_, message, rfl, hfails.dress c x⟩
  rcases hsubmits.asks with ⟨hmethod, hroute⟩ | ⟨hmethod, segment, hroute⟩
  · rcases Request.json_cases Draft.exact x.request with ⟨fault, hjson⟩ |
      ⟨front, rest, hsplit, hfront, hjson⟩
    · refine .inl ?_
      rw [Server.run_of_creation c x s hmethod hroute]
      unfold Server.create
      rw [hjson]
      exact hrefused fault
    · rw [Draft.names_shape] at hfront
      refine .inr (.inl ⟨front, rest, hsplit, hfront, hwrong hsplit hfront, ?_⟩)
      rw [Server.run_of_creation c x s hmethod hroute,
        Server.run_of_creation c (x.withBody front) s hmethod hroute]
      unfold Server.create
      simp only [Exchange.withBody, hjson]
      rfl
  · rcases Request.json_cases Revision.exact x.request with ⟨fault, hjson⟩ |
      ⟨front, rest, hsplit, hfront, hjson⟩
    · rw [Server.run_of_revision c x s hmethod hroute]
      unfold Server.update
      cases hid : pathId? segment with
      | none =>
        exact .inr (.inr ⟨⟨segment, hroute, (pathId?_eq_none_iff segment).1 hid⟩, _, rfl, rfl⟩)
      | some id =>
        simp only [hjson]
        exact .inl (hrefused fault)
    · rw [Revision.names_shape] at hfront
      refine .inr (.inl ⟨front, rest, hsplit, hfront, hwrong hsplit hfront, ?_⟩)
      rw [Server.run_of_revision c x s hmethod hroute,
        Server.run_of_revision c (x.withBody front) s hmethod hroute]
      unfold Server.update
      simp only [Exchange.withBody, hjson]
      rfl

/-- A draft with a letter behind it. -/
def Sample.draftAndMore : Exchange :=
  exchange 1 ⟨1⟩ "POST" "/api/v1/workspaces" "\x7b\"name\":\"a\"\x7d x"

/-- A draft with a member for which there is no field, and which is not UTF-8. -/
def Sample.garbledDraft : Exchange :=
  creation.withBody [0x7B, 0x22, 0x6E, 0x61, 0x6D, 0x65, 0x22, 0x3A, 0x22, 0x61, 0x22, 0x2C, 0x22,
    0x78, 0x22, 0x3A, 0x22, 0xFF, 0x22, 0x7D]

/-- Neither body is a document, and from both a workspace is created. -/
theorem a_malformed_body_can_create_a_workspace :
    (Sample.draftAndMore.request.Submits ∧ ¬ Json.IsDocument Sample.draftAndMore.request.body ∧
      Outcome.status? (Sample.draftAndMore.run Sample.config Store.empty).1 = some 201) ∧
    (Sample.garbledDraft.request.Submits ∧ ¬ Json.IsDocument Sample.garbledDraft.request.body ∧
      Outcome.status? (Sample.garbledDraft.run Sample.config Store.empty).1 = some 201) :=
  ⟨⟨⟨by decide +kernel, .inl ⟨rfl, by decide +kernel⟩⟩, by decide +kernel, by decide +kernel⟩,
    ⟨⟨by decide +kernel, .inl ⟨rfl, by decide +kernel⟩⟩, by decide +kernel, by decide +kernel⟩⟩

/-- A body that is no JSON at all. -/
def Sample.babble : Exchange := exchange 1 ⟨1⟩ "POST" "/api/v1/workspaces" "oops"

theorem babble_is_refused :
    Sample.babble.request.Submits ∧ ¬ Json.IsDocument Sample.babble.request.body ∧
      ∃ p message, Sample.babble.run Sample.config Store.empty = (.ok p, Store.empty) ∧
        p.Fails 400 [badRequest message] := by
  have hsubmits : Sample.babble.request.Submits :=
    ⟨by decide +kernel, .inl ⟨rfl, by decide +kernel⟩⟩
  have hbody : ¬ Json.IsDocument Sample.babble.request.body := by decide +kernel
  refine ⟨hsubmits, hbody, ?_⟩
  rcases a_malformed_body_is_refused_unless_its_front_is_read Sample.config Sample.babble
    Store.empty hsubmits hbody with hrefused | ⟨front, rest, hsplit, hfront, _⟩ | ⟨⟨_, hitem, _⟩, _⟩
  · exact hrefused
  · -- A front has a bracket in it.
    have hopens : 0x5B ∈ front ∨ 0x7B ∈ front := by cases hfront <;> simp
    have hnone : 0x5B ∉ front ++ rest ∧ 0x7B ∉ front ++ rest := by
      rw [← hsplit]
      decide +kernel
    simp only [List.mem_append, not_or] at hnone
    exact absurd hopens (not_or.2 ⟨hnone.1.1, hnone.2.1⟩)
  · have hcollection : Route.ofApiPath? Sample.babble.request.target.path = some .collection := by
      decide +kernel
    rw [hcollection] at hitem
    cases hitem

end Http

end Workspaces

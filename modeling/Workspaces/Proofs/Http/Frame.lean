-- What a request leaves alone: all of the store if it does not succeed or asks for no change, and
-- otherwise every workspace but the one it is about.
import Workspaces.Proofs.Http.Exchange

namespace Workspaces

namespace Http

theorem Outcome.succeeds_of_status {p : Response} (h : p.status = 200 ∨ p.status = 201) :
    Outcome.Succeeds (.ok p) := by
  refine ⟨p.status, rfl, ?_⟩
  omega

namespace Turn

variable {x : Exchange} {s s' : Store} {outcome : Outcome}

/-- An exchange that does not succeed, or asks for no change, changes nothing. -/
theorem keeps (h : Turn x s outcome s')
    (hcalm : ¬ Outcome.Succeeds outcome ∨ x.request.writes = false) : s' = s := by
  cases h with
  | idle => rfl
  | shown => rfl
  | created d method check free status told =>
    rcases hcalm with hfail | hread
    · exact absurd (Outcome.succeeds_of_status (.inr status)) hfail
    · simp [Request.writes, method] at hread
  | revised id w r method addresses found check status told =>
    rcases hcalm with hfail | hread
    · exact absurd (Outcome.succeeds_of_status (.inl status)) hfail
    · rcases method with method | method <;> simp [Request.writes, method] at hread
  | deleted id w method addresses found status =>
    rcases hcalm with hfail | hread
    · exact absurd (Outcome.succeeds_of_status (.inl status)) hfail
    · simp [Request.writes, method] at hread

/-- An exchange changes what is under one id at most. -/
theorem sameBut (h : Turn x s outcome s') : ∃ id, s.SameBut id s' := by
  cases h with
  | idle | shown => exact ⟨.nil, fun _ _ => rfl⟩
  | created d => exact ⟨_, s.sameBut_put _⟩
  | revised id w r => exact ⟨id, s.sameBut_modify id _⟩
  | deleted id w => exact ⟨id, s.sameBut_erase id⟩

/-- A success of a method that asks for a change is not idle. -/
theorem not_idle {p : Response} (hwrites : x.request.writes = true)
    (hstatus : p.status = 200 ∨ p.status = 201)
    (calm : Outcome.Succeeds (.ok p) → x.request.writes = false) : False := by
  have := calm (Outcome.succeeds_of_status hstatus)
  rw [hwrites] at this
  cases this

variable {p : Response}

theorem of_created (h : Turn x s (.ok p) s') (hmethod : x.request.method = "POST")
    (hstatus : p.status = 201) :
    ∃ w, w.id = x.occasion.freshId ∧ p.Conveys w.toJson ∧ s' = s.put w := by
  cases h with
  | idle calm => exact (not_idle (by simp [Request.writes, hmethod]) (.inr hstatus) calm).elim
  | created d method check free status told => exact ⟨_, rfl, told, rfl⟩
  | shown id w method | revised id w r method =>
    rcases method with method | method <;> simp [hmethod] at method
  | deleted id w method => simp [hmethod] at method

theorem of_revised (h : Turn x s (.ok p) s')
    (hmethod : x.request.method = "PATCH" ∨ x.request.method = "PUT") (hstatus : p.status = 200) :
    ∃ id v w, x.request.Addresses id ∧ s.find? id = some v ∧ p.Conveys w.toJson ∧
      s'.find? id = some w ∧ s.SameBut id s' := by
  have hwrites : x.request.writes = true := by
    rcases hmethod with hmethod | hmethod <;> simp [Request.writes, hmethod]
  cases h with
  | idle calm => exact (not_idle hwrites (.inl hstatus) calm).elim
  | created d method => rcases hmethod with hmethod | hmethod <;> simp [hmethod] at method
  | shown id w method addresses found status told =>
    exact ⟨id, w, w, addresses, found, told, found, fun _ _ => rfl⟩
  | revised id w r method addresses found check status told =>
    refine ⟨id, w, _, addresses, found, told, ?_, s.sameBut_modify id _⟩
    rw [Store.find?_modify, if_pos rfl, found]
    rfl
  | deleted id w method => rcases hmethod with hmethod | hmethod <;> simp [hmethod] at method

theorem of_deleted (h : Turn x s (.ok p) s') (hmethod : x.request.method = "DELETE")
    (hstatus : p.status = 200) :
    ∃ id w, x.request.Addresses id ∧ s.find? id = some w ∧ s' = s.erase id := by
  cases h with
  | idle calm => exact (not_idle (by simp [Request.writes, hmethod]) (.inl hstatus) calm).elim
  | created d method => simp [hmethod] at method
  | shown id w method | revised id w r method =>
    rcases method with method | method <;> simp [hmethod] at method
  | deleted id w method addresses found status => exact ⟨id, w, addresses, found, rfl⟩

end Turn

/-! ## The laws -/

/-- Whichever calls of the store fail, a request changes no workspace but the one it is about. One
that does not succeed, or whose method asks for no change, leaves the store as it was. A creation
adds the workspace that it tells of, and adds it under an id that was free if its id is fresh. A
revision changes at most the workspace that it addresses, and a deletion removes that one. -/
theorem a_request_changes_only_what_it_is_about (c : Config) (x : Exchange) (s : Store) :
    let outcome := (x.run c s).1
    let s' := (x.run c s).2
    (¬ Outcome.Succeeds outcome ∨ x.request.writes = false → s' = s) ∧
    ∀ p, outcome = .ok p →
      (x.request.method = "POST" → p.status = 201 →
        ∃ w, p.Conveys w.toJson ∧ s'.find? w.id = some w ∧ s.SameBut w.id s' ∧
          (s.find? x.occasion.freshId = none →
            s.find? w.id = none ∧ s'.count = s.count + 1)) ∧
      (x.request.method = "PATCH" ∨ x.request.method = "PUT" → p.status = 200 →
        ∃ id v w, x.request.Addresses id ∧ s.find? id = some v ∧ p.Conveys w.toJson ∧
          s'.find? id = some w ∧ s.SameBut id s') ∧
      (x.request.method = "DELETE" → p.status = 200 →
        ∃ id w, x.request.Addresses id ∧ s.find? id = some w ∧ s'.find? id = none ∧
          s.SameBut id s' ∧ s'.count + 1 = s.count) := by
  have hturn := Server.turn_of_run x s c
  intro outcome s'
  refine ⟨hturn.keeps, fun p hp => ?_⟩
  have hturn : Turn x s (.ok p) s' := hp ▸ hturn
  refine ⟨fun hmethod hstatus => ?_, hturn.of_revised, fun hmethod hstatus => ?_⟩
  · obtain ⟨w, hid, told, hput⟩ := hturn.of_created hmethod hstatus
    rw [hput]
    refine ⟨w, told, by rw [Store.find?_put, if_pos rfl], s.sameBut_put w, fun hfree => ?_⟩
    rw [← hid] at hfree
    exact ⟨hfree, s.count_put w hfree⟩
  · obtain ⟨id, w, addresses, found, herase⟩ := hturn.of_deleted hmethod hstatus
    rw [herase]
    exact ⟨id, w, addresses, found, by rw [Store.find?_erase, if_pos rfl], s.sameBut_erase id,
      s.count_erase w id found⟩

theorem a_creation_adds_one_workspace :
    ∃ p w, (Sample.creation.run Sample.config Store.empty).1 = .ok p ∧ p.status = 201 ∧
      p.Conveys w.toJson ∧
      (Sample.creation.run Sample.config Store.empty).2.find? w.id = some w ∧
      (Sample.creation.run Sample.config Store.empty).2.count = 1 := by
  obtain ⟨_, hsuccess⟩ :=
    a_request_changes_only_what_it_is_about Sample.config Sample.creation Store.empty
  have hstatus : Outcome.status? (Sample.creation.run Sample.config Store.empty).1 = some 201 := by
    decide +kernel
  obtain ⟨p, hp⟩ : ∃ p, (Sample.creation.run Sample.config Store.empty).1 = .ok p := by
    cases hrun : (Sample.creation.run Sample.config Store.empty).1 with
    | error fault =>
      rw [hrun] at hstatus
      cases hstatus
    | ok p => exact ⟨p, rfl⟩
  rw [hp] at hstatus
  have hcreated := Option.some.inj hstatus
  obtain ⟨w, told, found, _, hcount⟩ := (hsuccess p hp).1 rfl hcreated
  exact ⟨p, w, hp, hcreated, told, found, (hcount rfl).2⟩

end Http

end Workspaces

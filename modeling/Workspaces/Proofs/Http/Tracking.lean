-- Request ids on their way: the id that is chosen can always stand in a header, and the handlers
-- read there the very id that the answer carries. Nothing else of a request is touched by it.
import Workspaces.Http.Server
import Workspaces.Proofs.Except
import Workspaces.Proofs.Store.Calls
import Workspaces.Proofs.Uuid.Spelling

namespace Workspaces

/-- Every octet is a visible character of ASCII, a space or a tab. -/
def Octets.IsVisible (t : Octets) : Prop := ∀ b ∈ t, b = 0x09 ∨ (0x20 ≤ b ∧ b ≤ 0x7E)

instance (t : Octets) : Decidable t.IsVisible :=
  inferInstanceAs (Decidable (∀ b ∈ t, b = 0x09 ∨ (0x20 ≤ b ∧ b ≤ 0x7E)))

theorem Octets.IsVisible.ascii {t : Octets} (h : t.IsVisible) : ∀ b ∈ t, b < 0x80 := by
  intro b hb
  rcases h b hb with rfl | ⟨_, hhigh⟩
  · decide
  · exact UInt8.lt_of_le_of_lt hhigh (by decide)

/-- The canonical spelling of an id can be seen. -/
theorem Uuid.isVisible_text (u : Uuid) : (Octets.ofString u.text).IsVisible := by
  have hdigit : ∀ k < 16, (Octets.ofChars [Json.hexChar k]).IsVisible := by decide +kernel
  have hdash : (Octets.ofChars ['-']).IsVisible := by decide +kernel
  intro b hb
  unfold Octets.ofString Uuid.text at hb
  rw [String.toList_ofList] at hb
  obtain ⟨c, hc, hb⟩ := List.mem_flatMap.1 hb
  have hb : b ∈ Octets.ofChars [c] := by simpa [Octets.ofChars] using hb
  rcases mem_chars u c hc with rfl | hc
  · exact hdash b hb
  · obtain ⟨k, hk, rfl⟩ := mem_hexChars 32 _ c hc
    exact hdigit k hk b hb

theorem Uuid.length_text (u : Uuid) : (Octets.ofString u.text).length = 36 := by
  unfold Octets.ofString Uuid.text
  rw [String.toList_ofList]
  exact u.length_groups

namespace Http

/-! ## One header put in place of others -/

namespace Request

variable (r : Request) {name other : String} (value : Octets)

/-- A header that is put in place is what is found under its name. -/
theorem header?_setHeader (hsmall : name.toList.map Char.toLower = name.toList) :
    (r.setHeader name value).header? name = some value := by
  unfold setHeader header?
  rw [List.find?_append, List.find?_filter, List.find?_eq_none.2]
  · simp [hsmall]
  · simp

/-- Under other names nothing changes. -/
theorem header?_setHeader_of_ne (hsmall : name.toList.map Char.toLower = name.toList)
    (hne : other ≠ name) : (r.setHeader name value).header? other = r.header? other := by
  have hne : other.toList ≠ name.toList := fun h => hne (String.toList_inj.1 h)
  have hkept : ∀ letters : List Char, (decide (letters ≠ name.toList) = true ∧
      decide (letters = other.toList) = true) ↔ letters = other.toList := by
    intro letters
    rw [decide_eq_true_eq, decide_eq_true_eq]
    exact ⟨And.right, fun h => ⟨h ▸ hne, h⟩⟩
  unfold setHeader header?
  rw [List.find?_append, List.find?_filter, List.find?_singleton]
  simp only [hkept, hsmall, hne.symm, decide_false, Bool.false_eq_true, if_false, Option.or_none]

end Request

namespace RequestId

/-! ## Choosing -/

theorem headerName_small : headerName.toList.map Char.toLower = headerName.toList := by decide

/-- The octets can be taken over for the id of an exchange. -/
structure Acceptable (t : Octets) : Prop where
  visible : t.IsVisible
  nonempty : t ≠ []
  short : t.length ≤ 128

instance (t : Octets) : Decidable (Acceptable t) :=
  decidable_of_iff (t.IsVisible ∧ t ≠ [] ∧ t.length ≤ 128)
    ⟨fun ⟨h, h', h''⟩ => ⟨h, h', h''⟩, fun ⟨h, h', h''⟩ => ⟨h, h', h''⟩⟩

theorem visible?_of_visible {t : Octets} (h : t.IsVisible) :
    visible? t = some (String.ofList (t.map Octets.char)) := by
  unfold visible?
  rw [if_pos]
  simpa [Octets.IsVisible] using h

theorem visible?_of_not_visible {t : Octets} (h : ¬ t.IsVisible) : visible? t = none := by
  unfold visible?
  rw [if_neg]
  simpa [Octets.IsVisible] using h

theorem ofString_seen {t : Octets} (h : t.IsVisible) :
    Octets.ofString (String.ofList (t.map Octets.char)) = t := by
  unfold Octets.ofString
  rw [String.toList_ofList]
  exact Octets.ofChars_map_char h.ascii

/-- What is written of a text that can be seen is read back. -/
theorem visible?_ofString {id : String} (h : (Octets.ofString id).IsVisible) :
    visible? (Octets.ofString id) = some id := by
  rw [visible?_of_visible h, Octets.ofString_inj (ofString_seen h)]

variable (r : Request) (fresh : Uuid)

/-- The first id that was sent is taken over if it can be. -/
theorem choose_of_acceptable {t : Octets} (hsent : r.header? headerName = some t)
    (h : Acceptable t) : Octets.ofString (choose r fresh) = t := by
  have hlist : t.map Octets.char ≠ [] := by simpa using h.nonempty
  have hlength : (t.map Octets.char).length ≤ maxLength := by simpa [maxLength] using h.short
  unfold choose sent?
  rw [hsent, Option.bind_some, visible?_of_visible h.visible]
  simp only [String.toList_ofList, hlist, hlength, ne_eq, not_false_eq_true, and_self, if_true]
  exact ofString_seen h.visible

/-- Where the first id that was sent cannot be taken over, or none was sent, it is a fresh one. -/
theorem choose_of_unacceptable (h : ∀ t, r.header? headerName = some t → ¬ Acceptable t) :
    choose r fresh = fresh.text := by
  unfold choose sent?
  cases hsent : r.header? headerName with
  | none => rfl
  | some t =>
    rw [Option.bind_some]
    by_cases hvisible : t.IsVisible
    · rw [visible?_of_visible hvisible]
      refine if_neg fun ⟨hnonempty, hshort⟩ => h t hsent ⟨hvisible, ?_, ?_⟩
      · simpa using hnonempty
      · simpa [maxLength] using hshort
    · rw [visible?_of_not_visible hvisible]

theorem acceptable_fresh : Acceptable (Octets.ofString fresh.text) where
  visible := fresh.isVisible_text
  nonempty := List.ne_nil_of_length_pos (by rw [fresh.length_text]; decide)
  short := by rw [fresh.length_text]; decide

/-- An id that is chosen could always have been sent. -/
theorem acceptable_choose : Acceptable (Octets.ofString (choose r fresh)) := by
  by_cases h : ∃ t, r.header? headerName = some t ∧ Acceptable t
  · obtain ⟨t, hsent, ht⟩ := h
    rw [choose_of_acceptable r fresh hsent ht]
    exact ht
  · rw [choose_of_unacceptable r fresh fun t hsent ht => h ⟨t, hsent, ht⟩]
    exact acceptable_fresh fresh

/-! ## In a header -/

/-- Whatever can be seen can stand in a header. -/
theorem headerText?_of_visible {s : String} (h : (Octets.ofString s).IsVisible) :
    Config.headerText? s = some s := by
  have hgood : Config.isHeaderText s = true := by
    refine List.all_eq_true.2 fun b hb => ?_
    rcases h b hb with rfl | ⟨hlow, hhigh⟩
    · decide
    · have hne : b ≠ 0x7F := by
        rintro rfl
        exact absurd hhigh (by decide)
      simp [hlow, hne]
  unfold Config.headerText?
  rw [if_pos hgood]

theorem headerText?_choose : Config.headerText? (choose r fresh) = some (choose r fresh) :=
  headerText?_of_visible (acceptable_choose r fresh).visible

/-- No id is replaced on its way into a header. -/
theorem headerValue_choose : headerValue (choose r fresh) = choose r fresh := by
  unfold headerValue
  rw [headerText?_choose]
  rfl

/-- The id that was put in place is what is read again. -/
theorem sent?_setHeader :
    sent? (r.setHeader headerName (Octets.ofString (choose r fresh))) = some (choose r fresh) := by
  unfold sent?
  rw [r.header?_setHeader _ headerName_small, Option.bind_some]
  exact visible?_ofString (acceptable_choose r fresh).visible

end RequestId

/-! ## What the id leaves alone -/

open RequestId (headerName headerName_small)

section

variable (c : Config) (o : Occasion) (r : Request) (id : Octets)

theorem Request.json_setHeader {α : Type} (reader : Json.Reader α) :
    (r.setHeader headerName id).json reader = r.json reader := by
  have htype := r.header?_setHeader_of_ne id headerName_small
    (show "content-type" ≠ headerName by decide)
  unfold json announcesJson
  rw [htype]
  rfl

theorem Cors.grant_setHeader : grant c (r.setHeader headerName id) = grant c r := by
  unfold grant
  rw [r.header?_setHeader_of_ne id headerName_small (show "origin" ≠ headerName by decide)]

theorem Cors.headers_setHeader : headers c (r.setHeader headerName id) = headers c r := by
  unfold headers
  rw [grant_setHeader]

theorem Cors.preflight_setHeader (allow : Option String) :
    preflight c (r.setHeader headerName id) allow = preflight c r allow := by
  unfold preflight
  rw [grant_setHeader]

theorem Server.handle_setHeader (requestId : Option String) (route : Route) :
    handle o requestId (r.setHeader headerName id) route = handle o requestId r route := by
  have hcreate : create o (r.setHeader headerName id) = create o r := by
    unfold create
    rw [r.json_setHeader]
  have hupdate : ∀ segment, update o segment (r.setHeader headerName id) = update o segment r := by
    intro segment
    unfold update
    rw [r.json_setHeader]
  have hget : getRoute o requestId (r.setHeader headerName id) route =
      getRoute o requestId r route := by
    cases route <;> rfl
  unfold handle
  simp only [hcreate, hupdate, hget]
  rfl

end

/-! ## The server, with the id settled -/

/-- The server answers as its routes do to the request as it was sent, given the id that is chosen.
What they answer is put behind the grants to other origins, and the id behind that. -/
theorem Server.serve_eq (c : Config) (o : Occasion) (r : Request) :
    serve c o r =
      let id := RequestId.choose r o.freshRequestId
      let route := Route.ofPath? c.docsEnabled r.target.path
      if r.method = "OPTIONS" then
        .answer (.ok (withRequestId id (Cors.preflight c r (route.map Route.allow))))
      else
        let outcome :=
          match route with
          | some route => handle o (some id) r route
          | none => .answer (.ok (routeNotFound o.now))
        outcome.map fun outcome =>
          outcome.map fun p => withRequestId id (p.withHeaders (Cors.headers c r)) := by
  have hanswers : ∀ (id : String) (d : Dialogue Outcome),
      (d.map fun outcome => outcome.map (·.withHeaders (Cors.headers c r))).map
          (fun outcome => outcome.map (withRequestId id)) =
        d.map fun outcome =>
          outcome.map fun p => withRequestId id (p.withHeaders (Cors.headers c r)) := by
    intro id d
    rw [Dialogue.map_map]
    congr 1
    funext outcome
    exact except_map_map outcome _ _
  unfold serve answer
  simp only [RequestId.headerValue_choose, RequestId.sent?_setHeader, handle_setHeader,
    Cors.headers_setHeader, Cors.preflight_setHeader]
  change Dialogue.map _ (if r.method = "OPTIONS" then _ else _) = _
  split
  · rfl
  · exact hanswers _ _

end Http

end Workspaces

-- Walking through the listing page by page. The answers tell the client how far to go on and when
-- to stop, and so it meets every workspace once, in the order of the listing.
import Workspaces.Proofs.Http.Frame
import Workspaces.Proofs.Http.ReadYourWrites
import Workspaces.Proofs.Store.Listing
import Workspaces.Proofs.Store.Uniqueness
import Workspaces.Proofs.Text.Numeral

namespace Workspaces

/-! ## What a text tells of paging -/

theorem Json.int_inj {m n : Int} (h : (Json.int m).chars = (Json.int n).chars) : m = n :=
  Numeral.write_inj h

theorem Json.bool_inj {a b : Bool} (h : (Json.bool a).chars = (Json.bool b).chars) : a = b := by
  cases a <;> cases b
  · rfl
  · simp [Json.chars] at h
  · simp [Json.chars] at h
  · rfl

/-- The text of a paging tells all of it. -/
theorem Paging.toJson_inj {p q : Paging} (h : p.toJson.chars = q.toJson.chars) : p = q := by
  have hmembers := Json.object_inj _ _ h
  simp only [List.map_cons, Json.spelled, List.cons.injEq, Prod.mk.injEq] at hmembers
  obtain ⟨⟨_, hskip⟩, ⟨_, hlimit⟩, ⟨_, hpage⟩, ⟨_, hpages⟩, ⟨_, hnext⟩, ⟨_, hprevious⟩, _⟩ :=
    hmembers
  obtain ⟨skip, limit, page, totalPages, hasNext, hasPrevious⟩ := p
  obtain ⟨skip', limit', page', totalPages', hasNext', hasPrevious'⟩ := q
  obtain rfl := Json.int_inj hskip
  obtain rfl := Json.int_inj hlimit
  obtain rfl := Json.int_inj hpage
  obtain rfl := Json.int_inj hpages
  obtain rfl := Json.bool_inj hnext
  obtain rfl := Json.bool_inj hprevious
  rfl

/-- The text of metadata tells the paging in it. -/
theorem Metadata.paging_of_chars {m n : Metadata} {p q : Paging}
    (h : m.toJson.chars = n.toJson.chars) (hp : m.paging = some p) (hq : n.paging = some q) :
    p = q := by
  have hmembers := Json.object_inj _ _ h
  have hnames : Json.quoted "request_id" ≠ Json.quoted "pagination" := by decide +kernel
  rw [hp, hq] at hmembers
  cases hr : m.requestId <;> cases hr' : n.requestId <;> rw [hr, hr'] at hmembers <;>
    simp only [optionalMember, List.cons_append, List.nil_append, List.map_cons, Json.spelled,
      List.cons.injEq, Prod.mk.injEq] at hmembers
  · exact Paging.toJson_inj hmembers.1.2
  · exact absurd hmembers.1.1.symm hnames
  · exact absurd hmembers.1.1 hnames
  · exact Paging.toJson_inj hmembers.2.1.2

namespace Http

/-! ## Pages -/

/-- What a page shows: workspaces, where they stand in the listing, and how many there are. -/
structure Sheet where
  items : List Workspace
  paging : Paging
  total : Int

/-- An answer shows the page. -/
def Response.Shows (p : Response) (sheet : Sheet) : Prop :=
  p.status = 200 ∧ ∃ (e : Envelope) (m : Metadata) (now : Instant),
    p.body = .text (e.toJson now).text ∧
    e.data = some (.array (sheet.items.map Workspace.toJson)) ∧ e.metadata = some m ∧
    m.paging = some sheet.paging ∧ m.total = some sheet.total

/-- An answer tells its paging. -/
theorem Response.Shows.paging_unique {p : Response} {a b : Sheet} (ha : p.Shows a)
    (hb : p.Shows b) : a.paging = b.paging := by
  obtain ⟨_, e, m, now, hbody, hdata, hmeta, hpaging, _⟩ := ha
  obtain ⟨_, e', m', now', hbody', hdata', hmeta', hpaging', _⟩ := hb
  rw [hbody] at hbody'
  have hchars : (e.toJson now).chars = (e'.toJson now').chars :=
    String.ofList_injective (Body.text.inj hbody')
  have hmembers := Json.object_inj _ _ hchars
  rw [hdata, hdata', hmeta, hmeta'] at hmembers
  have hfifth := (List.cons.inj (List.cons.inj (List.cons.inj (List.cons.inj
    (List.cons.inj hmembers).2).2).2).2).1
  exact Metadata.paging_of_chars (Prod.ext_iff.1 hfifth).2 hpaging hpaging'

/-- A listing is asked for that skips so many workspaces and shows at most so many, while every
call of the store is carried out. -/
structure Exchange.Lists (x : Exchange) (skip limit : Int) : Prop where
  calm : x.outage = Outage.none
  method : x.request.method = "GET"
  route : Route.ofApiPath? x.request.target.path = some .collection
  query : ∃ q, WindowQuery.ofOctets x.request.target.query = .ok q ∧ q.skip.getD 0 = skip ∧
    q.limit = some limit

/-- The page that shows at most `limit` workspaces behind the first `skip`. -/
def sheetOf (s : Store) (skip limit : Nat) : Sheet where
  items := (s.listing.drop skip).take limit
  paging := .exact skip limit s.count
  total := s.count

/-- The window of a listing that is asked for. -/
theorem Exchange.Lists.asks {x : Exchange} {skip : Nat} {limit : Int} (h : x.Lists skip limit)
    (hlimit : 1 ≤ limit) : x.request.Asks ⟨skip, min limit Window.maxLimit⟩ := by
  obtain ⟨q, hquery, hskip, hgiven⟩ := h.query
  refine ⟨q, hquery, ?_⟩
  unfold Window.ofRequest
  rw [hskip, hgiven, Option.getD_some]
  simp only
  rw [if_neg (by omega), if_neg (by omega)]

/-- A listing is answered with its page if the page ends within the integers of 64 bits, and the
store stays as it is. -/
theorem page_answer (c : Config) (x : Exchange) (s : Store) (skip limit : Nat) (asked : Int)
    (h : x.Lists skip asked) (hasked : 1 ≤ asked) (hlimit : (limit : Int) = min asked 100)
    (hskip : skip < 2 ^ 62) (hcount : s.count < 2 ^ 62) :
    (∃ p, (x.run c s).1 = .ok p ∧ p.Shows (sheetOf s skip limit)) ∧ (x.run c s).2 = s := by
  have hreads : x.request.writes = false := by simp [Request.writes, h.method]
  refine ⟨?_, (Server.turn_of_run x s c).keeps (.inr hreads)⟩
  have hasks := h.asks hasked
  rcases Server.list_answer c x s h.calm h.method h.route with
    ⟨_, _, hnone, _⟩ | ⟨w, requestId, hw, hrun⟩
  · exact absurd hasks (hnone _)
  · obtain rfl := hw.unique hasks
    have hwindow : (⟨(skip : Int), min asked Window.maxLimit⟩ : Window) = ⟨skip, limit⟩ := by
      rw [hlimit]
      rfl
    rw [hwindow] at hrun
    unfold Server.pageEnvelope at hrun
    rw [Paging.ofWindow_eq skip limit s.count (by omega) (by omega) (by omega) (by omega)
      (.inl (by omega)), if_pos (by omega)] at hrun
    refine ⟨_, hrun, rfl, _, _, x.occasion.now, rfl, ?_, rfl, rfl, rfl⟩
    simp [sheetOf, Store.list, Envelope.withMetadata]

/-! ## Walking -/

/-- A client walks from a place of the listing: it asks for the page there and goes on, as far as
the answer says that a page reaches, until an answer says that no page follows. -/
inductive Walk (c : Config) (ask : Int → Exchange) : Store → Int → List Response → Prop
  | last {s : Store} {skip : Int} {p : Response} {sheet : Sheet}
      (answer : ((ask skip).run c s).1 = .ok p) (shows : p.Shows sheet)
      (ends : sheet.paging.hasNext = false) : Walk c ask s skip [p]
  | next {s : Store} {skip : Int} {p : Response} {sheet : Sheet} {ps : List Response}
      (answer : ((ask skip).run c s).1 = .ok p) (shows : p.Shows sheet)
      (follows : sheet.paging.hasNext = true)
      (rest : Walk c ask ((ask skip).run c s).2 (skip + sheet.paging.limit) ps) :
      Walk c ask s skip (p :: ps)

/-- The answers tell the client what to do at every turn. -/
theorem Walk.unique {c : Config} {ask : Int → Exchange} {s : Store} {skip : Int}
    {ps qs : List Response} (hp : Walk c ask s skip ps) (hq : Walk c ask s skip qs) : qs = ps := by
  induction hp generalizing qs with
  | last answer shows ends =>
    cases hq with
    | last answer' => rw [Except.ok.inj (answer.symm.trans answer')]
    | next answer' shows' follows =>
      obtain rfl := Except.ok.inj (answer.symm.trans answer')
      rw [← shows.paging_unique shows', ends] at follows
      cases follows
  | next answer shows follows rest ih =>
    cases hq with
    | last answer' shows' ends =>
      obtain rfl := Except.ok.inj (answer.symm.trans answer')
      rw [← shows.paging_unique shows', follows] at ends
      cases ends
    | next answer' shows' _ rest' =>
      obtain rfl := Except.ok.inj (answer.symm.trans answer')
      rw [← shows.paging_unique shows'] at rest'
      rw [ih rest']

/-! ## All pages -/

/-- So many pages, each behind the one before it. -/
def pages (s : Store) (limit : Nat) : Nat → Nat → List Sheet
  | _, 0 => []
  | skip, n + 1 => sheetOf s skip limit :: pages s limit (skip + limit) n

section Pages

variable (s : Store) (limit skip n : Nat)

/-- Behind each other the pages show the listing from their place on. -/
theorem flatMap_pages :
    (pages s limit skip n).flatMap Sheet.items = (s.listing.drop skip).take (n * limit) := by
  induction n generalizing skip with
  | zero => simp [pages]
  | succ n ih =>
    have hlength : (n + 1) * limit = limit + n * limit := by rw [Nat.succ_mul, Nat.add_comm]
    rw [pages, List.flatMap_cons, ih, hlength, List.take_add, List.drop_drop]
    rfl

/-- A page is full if the listing reaches to its end. -/
theorem length_items_of_le (h : skip + limit ≤ s.count) :
    (sheetOf s skip limit).items.length = limit := by
  unfold sheetOf
  rw [List.length_take, List.length_drop, Store.length_listing]
  omega

/-- Pages are full as far as the listing reaches. -/
theorem dropLast_pages_full (h : skip + n * limit ≤ s.count) :
    ∀ sheet ∈ (pages s limit skip (n + 1)).dropLast, sheet.items.length = limit := by
  induction n generalizing skip with
  | zero =>
    intro sheet hsheet
    cases hsheet
  | succ n ih =>
    have hlength : (n + 1) * limit = limit + n * limit := by rw [Nat.succ_mul, Nat.add_comm]
    intro sheet hsheet
    rw [pages, pages, List.dropLast_cons_cons] at hsheet
    rcases List.mem_cons.1 hsheet with rfl | hsheet
    · exact length_items_of_le s limit skip (by omega)
    · exact ih (skip + limit) (by omega) sheet hsheet

/-- Every page tells the same limit, number of pages and number of workspaces. -/
theorem mem_pages {sheet : Sheet} (h : sheet ∈ pages s limit skip n) :
    sheet.paging.limit = limit ∧
      sheet.paging.totalPages = ((s.count : Int) + limit - 1) / limit ∧
      sheet.total = s.count := by
  induction n generalizing skip with
  | zero => cases h
  | succ n ih =>
    rcases List.mem_cons.1 h with rfl | h
    · exact ⟨rfl, rfl, rfl⟩
    · exact ih _ h

theorem length_pages : (pages s limit skip n).length = n := by
  induction n generalizing skip with
  | zero => rfl
  | succ n ih => rw [pages, List.length_cons, ih]

end Pages

/-- The walk from a place shows so many pages as it takes to reach the end of the listing. -/
theorem walk_pages (c : Config) (ask : Int → Exchange) (s : Store) (limit : Nat) (asked : Int)
    (hasked : 1 ≤ asked) (hlimit : (limit : Int) = min asked 100) (hcount : s.count < 2 ^ 62)
    (hask : ∀ skip, 0 ≤ skip → skip ≤ s.count → (ask skip).Lists skip asked) (n skip : Nat)
    (hskip : skip ≤ s.count) (hgoes : n = 0 ∨ skip + n * limit < s.count)
    (hstops : s.count ≤ skip + (n + 1) * limit) :
    ∃ answers, Walk c ask s skip answers ∧
      answers.Forall₂ Response.Shows (pages s limit skip (n + 1)) := by
  have hpage : ∀ place : Nat, place ≤ s.count →
      (∃ p, ((ask place).run c s).1 = .ok p ∧ p.Shows (sheetOf s place limit)) ∧
        ((ask place).run c s).2 = s := by
    intro place hplace
    have hlists := hask place (by omega) (by omega)
    exact page_answer c _ s place limit asked hlists hasked hlimit (by omega) hcount
  induction n generalizing skip with
  | zero =>
    obtain ⟨⟨p, hp, hshows⟩, _⟩ := hpage skip hskip
    have hends : (sheetOf s skip limit).paging.hasNext = false := by
      refine decide_eq_false ?_
      omega
    exact ⟨[p], .last hp hshows hends, .cons hshows .nil⟩
  | succ n ih =>
    have hlength : (n + 1) * limit = limit + n * limit := by rw [Nat.succ_mul, Nat.add_comm]
    have hlength' : (n + 1 + 1) * limit = limit + (n + 1) * limit := by
      rw [Nat.succ_mul, Nat.add_comm]
    obtain ⟨⟨p, hp, hshows⟩, hkept⟩ := hpage skip hskip
    have hfollows : (sheetOf s skip limit).paging.hasNext = true := by
      refine decide_eq_true ?_
      omega
    obtain ⟨answers, hwalk, hall⟩ := ih (skip + limit) (by omega) (by omega) (by omega)
    refine ⟨p :: answers, .next hp hshows hfollows ?_, .cons hshows hall⟩
    rw [hkept]
    exact hwalk

/-- How many pages it takes, one at least. -/
theorem pages_enough (count limit : Nat) (hlimit : 1 ≤ limit) :
    ∃ n, (n = 0 ∨ n * limit < count) ∧ count ≤ (n + 1) * limit ∧
      ((n + 1 : Nat) : Int) = max 1 (((count : Int) + limit - 1) / limit) := by
  rcases Nat.eq_zero_or_pos count with rfl | hpos
  · have hnone : ((0 : Nat) + (limit : Int) - 1) / limit = 0 :=
      Int.ediv_eq_zero_of_lt (by omega) (by omega)
    exact ⟨0, .inl rfl, by omega, by omega⟩
  · have hfull : (count - 1) / limit * limit ≤ count - 1 := Nat.div_mul_le_self _ _
    have hrest : count - 1 < (count - 1) / limit * limit + limit := Nat.lt_div_mul_add hlimit
    have hpages : ((count : Int) + limit - 1) / limit = ((count - 1) / limit + 1 : Nat) := by
      rw [← Nat.add_div_right (count - 1) hlimit, Int.natCast_ediv]
      congr 1
      omega
    refine ⟨(count - 1) / limit, .inr (by omega), ?_, ?_⟩
    · rw [Nat.succ_mul]
      omega
    · rw [hpages]
      exact (Int.max_eq_right (Int.ofNat_le.2 (Nat.le_add_left 1 _))).symm

/-- Whatever was asked before, a client that walks through the pages of a listing from its start
comes to an end after as many pages as the answers tell of, and after one if they tell of none.
Together the pages show every workspace once, the newer before the older and of two as old as each
other the one with the lower id first. Every page but the last is full, and every page tells the
number of all workspaces. -/
theorem walking_the_pages_meets_every_workspace_once (c : Config) (before : List Exchange)
    (limit : Int) (ask : Int → Exchange) (hlimit : 1 ≤ limit)
    (hcount : (storeAfter c Store.empty before).count < 2 ^ 62)
    (hask : ∀ skip, 0 ≤ skip → skip ≤ (storeAfter c Store.empty before).count →
      (ask skip).Lists skip limit) :
    let s := storeAfter c Store.empty before
    ∃ answers sheets, Walk c ask s 0 answers ∧
      (∀ others, Walk c ask s 0 others → others = answers) ∧
      answers.Forall₂ Response.Shows sheets ∧
      (∀ sheet ∈ sheets, (answers.length : Int) = max 1 sheet.paging.totalPages ∧
        sheet.total = s.count) ∧
      (∀ sheet ∈ sheets.dropLast, (sheet.items.length : Int) = sheet.paging.limit) ∧
      (sheets.flatMap Sheet.items).Perm s.workspaces ∧
      ((sheets.flatMap Sheet.items).map Workspace.id).Nodup ∧
      (sheets.flatMap Sheet.items).Pairwise fun v w =>
        w.createdAt < v.createdAt ∨ v.createdAt = w.createdAt ∧ v.id ≤ w.id := by
  intro s
  obtain ⟨size, hsize⟩ : ∃ size : Nat, (size : Int) = min limit 100 :=
    ⟨(min limit 100).toNat, by omega⟩
  obtain ⟨n, hgoes, hstops, hpages⟩ := pages_enough s.count size (by omega)
  obtain ⟨answers, hwalk, hshows⟩ := walk_pages c ask s size limit hlimit hsize hcount hask n 0
    (by omega) (by omega) (by omega)
  have hshown : (pages s size 0 (n + 1)).flatMap Sheet.items = s.listing := by
    rw [flatMap_pages, List.drop_zero, List.take_of_length_le]
    rw [Store.length_listing]
    exact hstops
  have hids : (s.listing.map Workspace.id).Nodup := by
    have hs : s.Orderly := orderly_storeAfter c before _ Store.orderly_empty
    have hkeyed : s.workspaces.map Workspace.id = s.entries.map Prod.fst := by
      unfold Store.workspaces
      rw [List.map_map]
      refine List.map_congr_left fun e he => ?_
      exact hs.keyed e.1 e.2 ((s.find?_eq_some_iff e.2 e.1).2 he)
    rw [(s.listing_perm.map _).nodup_iff, hkeyed]
    exact s.ids_nodup
  refine ⟨answers, _, hwalk, fun _ => hwalk.unique, hshows, fun sheet hsheet => ?_,
    fun sheet hsheet => ?_, ?_⟩
  · obtain ⟨_, htotalPages, htotal⟩ := mem_pages s size 0 (n + 1) hsheet
    rw [htotalPages, htotal, hshows.length_eq, length_pages, hpages]
    exact ⟨rfl, rfl⟩
  · have hfull : 0 + n * size ≤ s.count := by
      rcases hgoes with rfl | hlt <;> omega
    rw [dropLast_pages_full s size 0 n hfull sheet hsheet,
      (mem_pages s size 0 (n + 1) (List.dropLast_subset _ hsheet)).1]
  · rw [hshown]
    exact ⟨s.listing_perm, hids, s.listing_sorted⟩

/-- Three workspaces are created, two of them in the same instant. -/
def Sample.creations : List Exchange :=
  [creation, exchange 1 ⟨2⟩ "POST" "/api/v1/workspaces" "\x7b\"name\":\"two\"\x7d",
    exchange 2 ⟨3⟩ "POST" "/api/v1/workspaces" "\x7b\"name\":\"three\"\x7d"]

/-- A page with room for two is asked for. -/
def Sample.page (skip : Int) : Exchange :=
  exchange 3 .nil "GET" ("/api/v1/workspaces?limit=2&skip=" ++ toString skip) ""

theorem three_workspaces_fill_two_pages :
    ∃ answers sheets,
      Walk Sample.config Sample.page (storeAfter Sample.config Store.empty Sample.creations) 0
        answers ∧ answers.Forall₂ Response.Shows sheets ∧
      (sheets.flatMap Sheet.items).length = 3 := by
  have hcount : (storeAfter Sample.config Store.empty Sample.creations).count = 3 := by
    decide +kernel
  obtain ⟨answers, sheets, hwalk, _, hshows, _, _, hperm, _⟩ :=
    walking_the_pages_meets_every_workspace_once Sample.config Sample.creations 2 Sample.page
      (by decide) (by rw [hcount]; decide) (by
        intro skip hfirst hlast
        rw [hcount] at hlast
        obtain rfl | rfl | rfl | rfl : skip = 0 ∨ skip = 1 ∨ skip = 2 ∨ skip = 3 := by omega
        all_goals
          exact ⟨rfl, rfl, by decide +kernel, ⟨_, rfl, rfl, rfl⟩⟩)
  refine ⟨answers, sheets, hwalk, hshows, ?_⟩
  rw [hperm.length_eq]
  decide +kernel

end Http

end Workspaces
